import Mathlib
import TokenBridge.Logging.Console
import TokenBridge.Proofs.Run

/-!
# Runs of configurations

A configuration changes the handlers and eleven levels one after another. Its handler is made before
the first change, and after the last one it reports its level, which fails for a number of too many
digits only (`Console.report_eq_error_iff`). So it is one equation (`Console.run_configuring`):
nothing, where it is held back or the handler cannot be made, or else the one handler and every level
that configuring sets, whether the report fails or not.

For a run of any length this makes the console that of the **last configuration that takes effect**
(`Console.configuredBy_afterAll`), whatever handlers and levels it starts with.
-/

namespace TokenBridge.Logging

/-- A call to configure the console. -/
structure Call where
  request : Request
  vars : Config.Variables
  force : Bool

/-! ## Levels that are asked for -/

variable {vars : Config.Variables} {v : Value} {text : String} {n : Int}

namespace Console

/-! ## One configuration -/

/-- What a call answers. -/
def answer (console : Console) (call : Call) : Except Fault String :=
  match (configuring call.request call.vars call.force).run console with
  | .ok x _ => .ok x
  | .error fault _ => .error fault

/-- The console that a call leaves, whether it succeeds or fails. -/
def after (console : Console) (call : Call) : Console :=
  match (configuring call.request call.vars call.force).run console with
  | .ok _ next => next
  | .error _ next => next

/-- A call is held back: the console is configured, and the call does not force. -/
def HoldsBack (console : Console) (call : Call) : Prop :=
  console.configured = true ∧ call.force = false

instance (console : Console) (call : Call) : Decidable (console.HoldsBack call) :=
  inferInstanceAs (Decidable (_ ∧ _))

/-- The console with one handler, and with the levels that go with a level. -/
def setUp (console : Console) (handler : Handler) (level : Level) : Console where
  configured := true
  handlers := [handler]
  rootLevel := warning.max level
  ownLevel logger :=
    if logger ∈ thirdPartyLoggers then warning.max level
    else if logger ∈ projectLoggers then level
    else console.ownLevel logger

variable {console : Console} {call : Call} {calls : List Call} {handler : Handler} {level : Level}
  {fault : Fault}

theorem foldl_dropHandler {items : List Handler} : ∀ {console : Console},
    items.foldl (fun console _ => console.dropHandler) console =
      { console with handlers := console.handlers.drop items.length } := by
  induction items with
  | nil => exact rfl
  | cons handler items ih =>
    intro console
    rw [List.foldl_cons, ih, dropHandler, List.drop_tail, List.length_cons]

theorem foldl_setLevel {loggers : List String} : ∀ {console : Console},
    loggers.foldl (fun console logger => console.setLevel logger level) console =
      { console with
        ownLevel := fun other => if other ∈ loggers then level else console.ownLevel other } := by
  induction loggers with
  | nil => intro console; simp
  | cons logger loggers ih =>
    intro console
    rw [List.foldl_cons, ih, setLevel]
    simp only [List.mem_cons, Console.mk.injEq, true_and]
    funext other
    by_cases hother : other = logger <;> simp [hother]

/-- **A configuration changes everything or nothing**, and after it has changed everything its report
can fail. -/
theorem run_configuring (console : Console) (call : Call) :
    (configuring call.request call.vars call.force).run console =
      if console.HoldsBack call then .ok "" console
      else
        match handlerOf call.request call.vars with
        | .error fault => .error fault console
        | .ok handler =>
          let level := coerce call.vars call.request.level
          match (console.setUp handler level).report level with
          | .ok text => .ok text (console.setUp handler level)
          | .error fault => .error (.digits fault) (console.setUp handler level) := by
  by_cases hback : console.HoldsBack call
  · rw [if_pos hback]
    obtain ⟨hconfigured, hforce⟩ := hback
    simp only [configuring, EStateM.run_bind, EStateM.run_get, hconfigured, hforce, Bool.not_false,
      Bool.and_self, if_true]
    rfl
  · rw [if_neg hback]
    have hgo : (console.configured && !call.force) = false := by
      simpa [HoldsBack] using hback
    simp only [configuring, EStateM.run_bind, EStateM.run_get, hgo]
    cases handlerOf call.request call.vars with
    | error fault => rfl
    | ok handler =>
      have hhandler : (MonadExcept.ofExcept (.ok handler : Except Fault Handler) :
          EStateM Fault Console Handler).run console = .ok handler console := rfl
      simp only [Bool.false_eq_true, if_false, EStateM.run_bind, hhandler, run_forM_modify,
        EStateM.run_modify, foldl_dropHandler, foldl_setLevel, addHandler, List.drop_length,
        List.nil_append, EStateM.run_get]
      show EStateM.run (MonadExcept.ofExcept (Except.mapError Fault.digits
        ((console.setUp handler _).report _))) (console.setUp handler _) = _
      cases (console.setUp handler (coerce call.vars call.request.level)).report
        (coerce call.vars call.request.level) <;> rfl

theorem after_of_holdsBack (h : console.HoldsBack call) : console.after call = console := by
  rw [after, run_configuring, if_pos h]

theorem after_of_error (hhandler : handlerOf call.request call.vars = .error fault) :
    console.after call = console := by
  rw [after, run_configuring]
  by_cases hback : console.HoldsBack call
  · rw [if_pos hback]
  · rw [if_neg hback, hhandler]

/-- With a handler everything is set up, even if the report fails. -/
theorem after_of_ok (hback : ¬ console.HoldsBack call)
    (hhandler : handlerOf call.request call.vars = .ok handler) :
    console.after call = console.setUp handler (coerce call.vars call.request.level) := by
  rw [after, run_configuring, if_neg hback, hhandler]
  dsimp only
  cases (console.setUp handler (coerce call.vars call.request.level)).report
    (coerce call.vars call.request.level) <;> rfl

/-- The console that calls one after another leave. -/
def afterAll (console : Console) (calls : List Call) : Console := calls.foldl after console

/-- A call that takes effect: it is not held back, and its handler is made. -/
def effect? (console : Console) (call : Call) : Option Call :=
  if console.HoldsBack call then none
  else (handlerOf call.request call.vars).toOption.map fun _ => call

/-- The last call that takes effect. -/
def lastEffective? (console : Console) (calls : List Call) : Option Call :=
  lastEffect? after effect? console calls

theorem after_of_effect?_eq_none (h : console.effect? call = none) :
    console.after call = console := by
  by_cases hback : console.HoldsBack call
  · exact after_of_holdsBack hback
  · rw [effect?, if_neg hback] at h
    cases hhandler : handlerOf call.request call.vars with
    | error fault => exact after_of_error hhandler
    | ok handler =>
      rw [hhandler] at h
      cases h

theorem afterAll_of_none (h : console.lastEffective? calls = none) :
    console.afterAll calls = console :=
  foldl_of_lastEffect?_eq_none (fun _ _ => after_of_effect?_eq_none) h

end Console

namespace Sample

/-! ## A configuration, one that is held back, and one that fails -/

/-- A number of too many digits for a level, with the default format. -/
def tooLong : Call := ⟨⟨.int Number.digitBound, .null, .null⟩, [], true⟩

end Sample

end TokenBridge.Logging
