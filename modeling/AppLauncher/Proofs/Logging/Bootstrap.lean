import AppLauncher.Logging.Rule
import AppLauncher.Proofs.Host

/-!
# One logger and one hook

A process is asked, in any order and any number of times, to initialize its logging, to register a
shutdown hook and to run it, while the rest of the program goes on.  At most one initialization
installs a logger, and at most one hook runs, the first one that is registered.

What an initialization does is one of four things (`Host.Initializes`): it finds that another one
has been made, or it is refused, or it panics, or it installs the logger that it chooses.  The
pieces of state that remember this are tied to the requests so far by `Logging.Tracks`.  Every
request keeps this and is orderly because of it (`Logging.Tracks.turn`), and so are all requests of
a run (`Logging.Tracks.turns`).
-/

namespace AppLauncher

namespace Logging.Bootstrap

/-- A process with another logger, and with the hook of this logger if the configuration asks for
it. -/
def withLogger (b : Bootstrap) (settings : Config.Settings) (logger : Logger) : Bootstrap :=
  let changed := { b with logger := some logger }
  if settings.logging.registerHook then (changed.registerHook ⟨logger.file⟩).2 else changed

/-- Registering a hook concerns neither the logger nor the turn, and runs none. -/
lemma registerHook_frame (b : Bootstrap) (hook : Hook) :
    (b.registerHook hook).2.logger = b.logger ∧
      (b.registerHook hook).2.initialized = b.initialized ∧
      (b.registerHook hook).2.finished = b.finished := by
  unfold registerHook
  cases b.hookRegistered <;> exact ⟨rfl, rfl, rfl⟩

/-- A logger that is put in its place is there, the turn is as before, and no hook has run, whether
or not its own is registered. -/
lemma withLogger_frame (b : Bootstrap) (settings : Config.Settings) (logger : Logger) :
    (b.withLogger settings logger).logger = some logger ∧
      (b.withLogger settings logger).initialized = b.initialized ∧
      (b.withLogger settings logger).finished = b.finished := by
  unfold withLogger
  cases settings.logging.registerHook with
  | true => exact registerHook_frame { b with logger := some logger } ⟨logger.file⟩
  | false => exact ⟨rfl, rfl, rfl⟩

end Logging.Bootstrap

/-! ### What an initialization does -/

namespace Host

section

variable (reader : Logging.FilterReader)

/-- The logger that an initialization chooses, or why there is none: the logger of its
configuration, unless there is one already. -/
def chosen (settings : Config.Settings) (h : Host) :
    Except (Interruption Logging.Error) Logging.Logger :=
  match (run (Logging.loggerOf reader settings).run h).1, h.logging.logger with
  | .error cause, _ => .error cause
  | .ok _, some _ => .error (.error .install)
  | .ok logger, none => .ok logger

/-- An initialization that chooses a logger has found none. -/
lemma logger_eq_none {reader : Logging.FilterReader} {settings : Config.Settings} {h : Host}
    {logger : Logging.Logger} (hchosen : h.chosen reader settings = .ok logger) :
    h.logging.logger = none := by
  unfold chosen at hchosen
  split at hchosen
  · cases hchosen
  · cases hchosen
  · exact ‹h.logging.logger = none›

/-- The record of an initialization after another one. -/
def repeatRecord : Record := ⟨.debug, Logging.logTarget, "Logging already initialized", []⟩

/-- What an initialization answers, and the process that it leaves behind. -/
inductive Initializes (settings : Config.Settings) (h : Host) :
    Except (Interruption Logging.Error) Unit → Host → Prop where
  | repeated : h.logging.initialized = true →
      Initializes settings h (.ok ()) (h.deliverRecord repeatRecord)
  | refused {cause : Logging.Error} {g : Host} : h.logging.initialized = false →
      h.chosen reader settings = .error (.error cause) → g.store.trail = [] →
      g.logging = h.logging →
      Initializes settings h (.error (.error cause)) g
  | panicked {text : String} {g : Host} : h.logging.initialized = false →
      h.chosen reader settings = .error (.panic text) → g.store.trail = [] →
      g.logging = { h.logging with initialized := true } →
      Initializes settings h (.error (.panic text)) g
  | installed {logger : Logging.Logger} {g : Host} : h.logging.initialized = false →
      h.chosen reader settings = .ok logger → g.store.trail = [] →
      g.logging = { h.logging with initialized := true }.withLogger settings logger →
      Initializes settings h (.ok ()) g

/-- Announces the log file of a logger, if it has one. -/
def announce (logger : Logging.Logger) : Procedure Unit :=
  match logger.file with
  | some file => log .info Logging.logTarget "Logging to file" [.plain "log_file" file.text]
  | none => pure ()

/-- Registers the hook of a logger if the configuration asks for it. -/
def registerOwnHook (settings : Config.Settings) (logger : Logging.Logger) : Procedure Unit :=
  if settings.logging.registerHook then do let _ ← registerHook ⟨logger.file⟩ else pure ()

/-- An installation makes the logger of its configuration, puts it in its place, announces it and
registers its hook. -/
lemma install_eq (settings : Config.Settings) (h : Host) :
    install reader settings h = match run (Logging.loggerOf reader settings).run h with
      | (.error cause, g) => (.error cause, g)
      | (.ok logger, g) => match setLogger logger g with
        | (.error cause, f) => (.error (.error cause), f)
        | (.ok (), f) => (.ok (), (registerOwnHook settings logger (announce logger f).2).2) := by
  unfold install
  rw [Procedure.run_bindExcept]
  unfold ExceptT.mk
  rcases run (Logging.loggerOf reader settings).run h with ⟨cause | logger, g⟩
  · rfl
  · dsimp only
    rw [Procedure.run_bindExcept, Procedure.run_adapt]
    rcases setLogger logger g with ⟨cause | ⟨⟩, f⟩
    · rfl
    · unfold announce registerOwnHook
      cases logger.file <;> cases settings.logging.registerHook <;> rfl

/-- An announcement changes nothing about the logging, and leaves nothing to be delivered. -/
lemma announce_spec (logger : Logging.Logger) {h : Host} (htrail : h.store.trail = []) :
    (announce logger h).2.store.trail = [] ∧ (announce logger h).2.logging = h.logging := by
  unfold announce
  cases logger.file with
  | none => exact ⟨htrail, rfl⟩
  | some file => exact ⟨run_trail _ h, run_logging _ h⟩

/-- The hook of a logger is registered if the configuration asks for it, and nothing else happens.
-/
lemma registerOwnHook_spec (settings : Config.Settings) (logger : Logging.Logger) (h : Host) :
    (registerOwnHook settings logger h).2.store = h.store ∧
      (registerOwnHook settings logger h).2.logging =
        if settings.logging.registerHook then (h.logging.registerHook ⟨logger.file⟩).2
        else h.logging := by
  unfold registerOwnHook
  cases settings.logging.registerHook <;> exact ⟨rfl, rfl⟩

/-- An installation installs the logger that it chooses, or changes nothing about the logging. -/
lemma install_spec (settings : Config.Settings) (h : Host) :
    ∃ g, install reader settings h = ((h.chosen reader settings).map fun _ => (), g) ∧
      g.store.trail = [] ∧
      g.logging = match h.chosen reader settings with
        | .ok logger => h.logging.withLogger settings logger
        | .error _ => h.logging := by
  have htrail : (run (Logging.loggerOf reader settings).run h).2.store.trail = [] := run_trail _ h
  have hlogging : (run (Logging.loggerOf reader settings).run h).2.logging = h.logging :=
    run_logging _ h
  rw [install_eq]
  unfold chosen
  generalize run (Logging.loggerOf reader settings).run h = made at htrail hlogging ⊢
  rcases made with ⟨cause | logger, g⟩
  · exact ⟨g, rfl, htrail, hlogging⟩
  · dsimp only at htrail hlogging ⊢
    rw [← hlogging]
    unfold setLogger
    cases hlogger : g.logging.logger with
    | some other => exact ⟨g, rfl, htrail, rfl⟩
    | none =>
      have hset : { g with logging.logger := some logger }.store.trail = [] := htrail
      obtain ⟨hannounced, hsame⟩ := announce_spec logger hset
      obtain ⟨hstore, hregistered⟩ := registerOwnHook_spec settings logger
        (announce logger { g with logging.logger := some logger }).2
      refine ⟨_, rfl, hstore ▸ hannounced, ?_⟩
      rw [hregistered, hsame]
      rfl

/-- An initialization takes the turn, installs, and gives the turn up when it is refused. -/
lemma initializeLogging_eq {h : Host} (settings : Config.Settings)
    (hfree : h.logging.initialized = false) :
    initializeLogging reader settings h =
      match install reader settings { h with logging.initialized := true } with
      | (.error (.error cause), g) =>
        (.error (.error cause), { g with logging.initialized := false })
      | (.error (.panic text), g) => (.error (.panic text), g)
      | (.ok (), g) => (.ok (), g) := by
  unfold initializeLogging
  rw [Procedure.run_bind]
  show ((if (!h.logging.initialized) = true then _ else _ : Procedure _)
    { h with logging.initialized := true }) = _
  rw [if_pos (by rw [hfree]; rfl), Procedure.run_bind]
  unfold ExceptT.run
  rcases install reader settings { h with logging.initialized := true } with
    ⟨(cause | text) | ⟨⟩, g⟩ <;>
    rfl

/-- An initialization does one of the four things. -/
lemma initializes {h : Host} (settings : Config.Settings) (htrail : h.store.trail = []) :
    Initializes reader settings h (initializeLogging reader settings h).1
      (initializeLogging reader settings h).2 := by
  cases hturn : h.logging.initialized with
  | true =>
    have hsame : { h with logging := { h.logging with initialized := true } } = h := by
      rw [← hturn]
    have hrun : initializeLogging reader settings h = (.ok (), h.deliverRecord repeatRecord) := by
      unfold initializeLogging
      rw [Procedure.run_bind]
      show ((if (!h.logging.initialized) = true then _ else _ : Procedure _)
        { h with logging := { h.logging with initialized := true } }) = _
      rw [if_neg (by rw [hturn]; nofun), hsame, Procedure.run_bind, log_eq htrail]
      rfl
    rw [hrun]
    exact .repeated hturn
  | false =>
    obtain ⟨g, hinstall, hg, hlogging⟩ :=
      install_spec reader settings { h with logging.initialized := true }
    rw [initializeLogging_eq reader settings hturn, hinstall]
    -- Who has the turn does not matter for the choice of a logger.
    have hchosen : chosen reader settings { h with logging.initialized := true } =
        h.chosen reader settings := by
      unfold chosen
      rw [run_eq, run_eq]
    rw [hchosen] at hlogging ⊢
    rcases hcase : h.chosen reader settings with (cause | text) | logger
    · rw [hcase] at hlogging
      refine .refused hturn hcase hg ?_
      show { g.logging with initialized := false } = h.logging
      rw [hlogging, ← hturn]
    · rw [hcase] at hlogging
      exact .panicked hturn hcase hg hlogging
    · rw [hcase] at hlogging
      exact .installed hturn hcase hg hlogging

end

/-! ### What setting a logger and running the hook do -/

/-- A logger is put in its place unless there is one, which stays. -/
lemma setLogger_spec (logger : Logging.Logger) (h : Host) :
    ∃ present, (setLogger logger h).2 = { h with logging := { h.logging with logger := present } } ∧
      ∀ other, h.logging.logger = some other → present = some other := by
  unfold setLogger
  cases hlogger : h.logging.logger with
  | none => exact ⟨some logger, rfl, nofun⟩
  | some other =>
    refine ⟨some other, ?_, fun _ => id⟩
    show h = { h with logging := { h.logging with logger := some other } }
    rw [← hlogger]

/-- A process whose hook has been taken away. -/
def withoutHook (h : Host) : Host := { h with logging := { h.logging with hook := none } }

/-- Running the hook is taking it away and running what has been taken. -/
lemma runHook_of_some {h : Host} {hook : Logging.Hook} (hsome : h.logging.hook = some hook) :
    runHook h = finish hook h.withoutHook := by
  unfold runHook
  rw [Procedure.run_bind]
  unfold changeLogging Logging.Bootstrap.takeHook
  dsimp only
  rw [hsome]
  rfl

/-- Without a hook nothing happens when it is to be run. -/
lemma runHook_of_none {h : Host} (hnone : h.logging.hook = none) : (runHook h).2 = h := by
  unfold runHook
  rw [Procedure.run_bind]
  unfold changeLogging Logging.Bootstrap.takeHook
  dsimp only
  rw [hnone]
  show { h with logging := { h.logging with hook := none } } = h
  rw [← hnone]

/-- Running a hook is noted, changes nothing else about the logging, and leaves nothing to be
delivered. -/
lemma finish_spec (hook : Logging.Hook) {h : Host} (htrail : h.store.trail = []) :
    (finish hook h).2.store.trail = [] ∧
      (finish hook h).2.logging = (h.logging.noteRun hook).2 := by
  obtain ⟨file⟩ := hook
  cases file with
  | none => exact ⟨htrail, rfl⟩
  | some file =>
    let noted : Host := { h with logging := (h.logging.noteRun ⟨some file⟩).2 }
    have hnoted : changeLogging (·.noteRun ⟨some file⟩) h = ((), noted) := rfl
    have hget : (get : Procedure Host) noted = (noted, noted) := rfl
    unfold finish
    rw [Procedure.run_bind, hnoted]
    dsimp only
    rw [Procedure.run_bind, hget]
    dsimp only
    cases noted.store.files.sync file with
    | ok done => exact ⟨htrail, rfl⟩
    | error fault => exact ⟨run_trail _ noted, run_logging _ noted⟩

/-- Running the hook takes it away and notes that it has run, and leaves nothing to be delivered. -/
lemma runHook_spec {h : Host} (htrail : h.store.trail = []) :
    (runHook h).2.store.trail = [] ∧ (runHook h).2.logging = { h.logging with
      hook := none, finished := h.logging.hook.toList ++ h.logging.finished } := by
  cases hhook : h.logging.hook with
  | none =>
    rw [runHook_of_none hhook]
    refine ⟨htrail, ?_⟩
    show h.logging = { h.logging with hook := none }
    rw [← hhook]
  | some hook =>
    rw [runHook_of_some hhook]
    exact finish_spec hook (h := h.withoutHook) htrail

end Host

namespace Logging

/-! ### Requests -/

/-- What is asked of a process. -/
inductive Request where
  | setUp (settings : Config.Settings)
  | register (hook : Hook)
  | runHook
  /-- Another part of the program installs a logger of its own. -/
  | adopt (logger : Logger)
  /-- The rest of the program does something. -/
  | work (action : Action Unit)

/-- What a process answers. -/
inductive Answer where
  | initialized (result : Except (Interruption Error) Unit)
  | registered (first : Bool)
  | done
deriving DecidableEq

section

variable (reader : FilterReader)

/-- Does what is asked. -/
def Request.perform : Request → Procedure Answer
  | setUp settings => return .initialized (← Host.initializeLogging reader settings)
  | register hook => return .registered (← Host.registerHook hook)
  | runHook => do
    Host.runHook
    return .done
  | adopt logger => do
    let _ ← Host.setLogger logger
    return .done
  | work action => do
    Host.run action
    return .done

/-- A request with its answer, and the process before and after. -/
structure Turn where
  before : Host
  request : Request
  answer : Answer
  after : Host

/-- The turn of a request. -/
def Request.turn (request : Request) (h : Host) : Turn :=
  ⟨h, request, (request.perform reader h).1, (request.perform reader h).2⟩

/-- The turns of requests that are made one after the other. -/
def turns : List Request → Host → List Turn
  | [], _ => []
  | request :: requests, h => request.turn reader h :: turns requests (request.turn reader h).after

/-- The process that requests leave behind. -/
def afterAll (requests : List Request) (h : Host) : Host :=
  requests.foldl (fun h request => (request.turn reader h).after) h

end

namespace Turn

/-- The logger that an initialization installs, if it does. -/
def installed? (t : Turn) : Option Logger :=
  match t.request, t.before.logging.logger with
  | .setUp _, none => t.after.logging.logger
  | _, _ => none

/-- The hook that is registered in a turn: by a request, or by an initialization that installs a
logger and is to register its hook. -/
def registered? (t : Turn) : Option Hook :=
  match t.request with
  | .register hook => some hook
  | .setUp settings =>
    if settings.logging.registerHook then t.installed?.map fun logger => ⟨logger.file⟩ else none
  | _ => none

/-- An initialization ends without an error: it succeeds or panics. -/
def settles (t : Turn) : Bool :=
  match t.answer with
  | .initialized (.ok ()) => true
  | .initialized (.error (.panic _)) => true
  | _ => false

/-- A turn is as it should be after the turns before it. -/
structure Orderly (reader : FilterReader) (past : List Turn) (t : Turn) : Prop where
  /-- As long as all initializations have been refused, the next one installs the logger that it
  chooses, or gives the reason why there is none. -/
  attempted : ∀ settings, t.request = .setUp settings → (∀ earlier ∈ past, ¬earlier.settles) →
    t.answer = .initialized ((t.before.chosen reader settings).map fun _ => ()) ∧
      ∀ logger, t.before.chosen reader settings = .ok logger → t.installed? = some logger
  /-- An initialization that fails changes nothing about the logging but for the turn. -/
  failed : ∀ cause, t.answer = .initialized (.error cause) →
    t.after.logging =
      { t.before.logging with initialized := t.after.logging.initialized }
  /-- It had the turn, and gives it up again unless it panics. -/
  refused : ∀ cause, t.answer = .initialized (.error cause) →
    t.before.logging.initialized = false ∧
      t.after.logging.initialized = match cause with
        | .error _ => false
        | .panic _ => true
  /-- After one that has succeeded or panicked an initialization succeeds, and only says to the
  logger that there was another one. -/
  repeated : ∀ settings, t.request = .setUp settings → (∃ earlier ∈ past, earlier.settles) →
    t.answer = .initialized (.ok ()) ∧ t.after = t.before.deliverRecord Host.repeatRecord
  /-- A hook is told to be the first one if it is. -/
  registered : ∀ hook, t.request = .register hook →
    t.answer = .registered (past.filterMap registered?).isEmpty
  /-- A logger that is installed stays. -/
  kept : ∀ logger, t.before.logging.logger = some logger → t.after.logging.logger = some logger
  /-- The hook that is there is taken away and run, once. -/
  ran : t.request = .runHook → ∀ hook, t.before.logging.hook = some hook →
    t.after = (Host.finish hook t.before.withoutHook).2 ∧
      t.after.logging.finished = hook :: t.before.logging.finished
  /-- Without a hook to run nothing happens. -/
  idle : t.request = .runHook → t.before.logging.hook = none → t.after = t.before
  /-- No other request runs a hook. -/
  unrun : t.request ≠ .runHook → t.after.logging.finished = t.before.logging.finished

end Turn

/-! ### What a process remembers -/

/-- The state of the hook fits the hooks that have been registered: the first of them has run or is
still to run. -/
structure Hooked (registered : List Hook) (b : Bootstrap) : Prop where
  flag : b.hookRegistered = !registered.isEmpty
  slot : b.finished.reverse ++ b.hook.toList = registered.take 1

/-- Whether there are hooks says whether a new one is the first, and registering it fits. -/
lemma Hooked.register {registered : List Hook} {b : Bootstrap} (h : Hooked registered b)
    (hook : Hook) :
    (b.registerHook hook).1 = registered.isEmpty ∧
      Hooked (registered ++ [hook]) (b.registerHook hook).2 := by
  obtain ⟨hflag, hslot⟩ := h
  cases registered with
  | nil =>
    have hfree : b.hookRegistered = false := hflag
    obtain ⟨hfinished, -⟩ := List.append_eq_nil_iff.mp hslot
    unfold Bootstrap.registerHook
    rw [hfree]
    refine ⟨rfl, rfl, ?_⟩
    show b.finished.reverse ++ [hook] = [hook]
    rw [hfinished, List.nil_append]
  | cons first rest =>
    have hbusy : b.hookRegistered = true := hflag
    unfold Bootstrap.registerHook
    rw [hbusy]
    exact ⟨rfl, hbusy, hslot⟩

/-- The hook that is taken away and run fits as one that has run. -/
lemma Hooked.run {registered : List Hook} {b : Bootstrap} (h : Hooked registered b) :
    Hooked registered { b with hook := none, finished := b.hook.toList ++ b.finished } := by
  refine ⟨h.flag, ?_⟩
  have hreverse : b.hook.toList.reverse = b.hook.toList := by cases b.hook <;> rfl
  rw [← h.slot, Option.toList_none, List.append_nil, List.reverse_append, hreverse]

/-- What a process remembers of the turns so far. -/
structure Tracks (past : List Turn) (h : Host) : Prop where
  delivered : h.store.trail = []
  settled : h.logging.initialized = past.any Turn.settles
  single : (past.filterMap Turn.installed?).length ≤ h.logging.logger.toList.length
  hooked : Hooked (past.filterMap Turn.registered?) h.logging

/-- A process that has done nothing yet remembers nothing. -/
lemma tracks_start (files : FileSystem) : Tracks [] (.start files) :=
  ⟨rfl, rfl, Nat.le_refl 0, rfl, rfl⟩

section

variable {reader : FilterReader} {past : List Turn} {h g : Host} {t : Turn}

/-- Only an initialization that changes the logger installs one. -/
lemma installed?_eq_none (hsame : t.after.logging.logger = t.before.logging.logger) :
    t.installed? = none := by
  unfold Turn.installed?
  rw [hsame]
  split
  · exact ‹_›
  · rfl

/-- An initialization installs the logger that it puts in its place. -/
lemma installed?_of_withLogger {settings : Config.Settings} {answer : Answer} {b : Bootstrap}
    {logger : Logger} (hchosen : h.chosen reader settings = .ok logger)
    (hlogging : g.logging = b.withLogger settings logger) :
    Turn.installed? ⟨h, .setUp settings, answer, g⟩ = some logger := by
  unfold Turn.installed?
  dsimp only
  rw [Host.logger_eq_none hchosen, hlogging, (b.withLogger_frame settings logger).1]

/-- After one more turn a process remembers what it has remembered before, and the turn. -/
lemma Tracks.concat (h : Tracks past t.before) (hdelivered : t.after.store.trail = [])
    (hsettled : t.after.logging.initialized = (t.before.logging.initialized || t.settles))
    (hsingle : t.installed?.toList.length + t.before.logging.logger.toList.length ≤
      t.after.logging.logger.toList.length)
    (hhooked : Hooked (past.filterMap Turn.registered? ++ t.registered?.toList)
      t.after.logging) :
    Tracks (past ++ [t]) t.after := by
  have hlast : ∀ {β : Type} (f : Turn → Option β),
      (past ++ [t]).filterMap f = past.filterMap f ++ (f t).toList := by
    intro β f
    rw [List.filterMap_append]
    cases hf : f t <;> simp [hf]
  refine ⟨hdelivered, ?_, ?_, ?_⟩
  · rw [hsettled, h.settled, List.any_append, List.any_cons, List.any_nil, Bool.or_false]
  · have hbefore := h.single
    rw [hlast, List.length_append]
    omega
  · rw [hlast]
    exact hhooked

/-- A turn that neither makes an initialization nor runs a hook is orderly when the logger stays,
the answer to a hook is right, and no hook is noted to have run. -/
lemma orderly_of_ne (hrequest : ∀ settings, t.request ≠ .setUp settings)
    (hanswer : ∀ result, t.answer ≠ .initialized result) (hrun : t.request ≠ .runHook)
    (hregistered : ∀ hook, t.request = .register hook →
      t.answer = .registered (past.filterMap Turn.registered?).isEmpty)
    (hkept : ∀ logger, t.before.logging.logger = some logger →
      t.after.logging.logger = some logger)
    (hfinished : t.after.logging.finished = t.before.logging.finished) :
    t.Orderly reader past where
  attempted settings heq := absurd heq (hrequest settings)
  failed _ heq := absurd heq (hanswer _)
  refused _ heq := absurd heq (hanswer _)
  repeated settings heq := absurd heq (hrequest settings)
  registered := hregistered
  kept := hkept
  ran heq := absurd heq hrun
  idle heq := absurd heq hrun
  unrun _ := hfinished

/-- The hooks fit a process with another logger if they fit with its hook or without. -/
lemma Hooked.withLogger {registered : List Hook} {b : Bootstrap} (h : Hooked registered b)
    (settings : Config.Settings) (logger : Logger) :
    Hooked (registered ++ if settings.logging.registerHook then [⟨logger.file⟩] else [])
      (b.withLogger settings logger) := by
  have hchanged : Hooked registered { b with logger := some logger } := ⟨h.flag, h.slot⟩
  unfold Bootstrap.withLogger
  cases settings.logging.registerHook with
  | true => exact (hchanged.register ⟨logger.file⟩).2
  | false => simpa using hchanged

/-- An initialization that installs no logger, and registers no hook, is remembered when it leaves
the logging as it was except for the turn, which it keeps if it settles the matter. -/
lemma Tracks.concat_setUp (h : Tracks past t.before) {settings : Config.Settings}
    (hrequest : t.request = .setUp settings) (hdelivered : t.after.store.trail = [])
    (hlogging : t.after.logging =
      { t.before.logging with initialized := t.before.logging.initialized || t.settles }) :
    Tracks (past ++ [t]) t.after := by
  have hinstalled : t.installed? = none := installed?_eq_none (by rw [hlogging])
  have hregistered : t.registered? = none := by
    unfold Turn.registered?
    rw [hrequest, hinstalled]
    exact ite_self _
  refine h.concat hdelivered ?_ ?_ ?_
  · rw [hlogging]
  · refine Nat.le_of_eq ?_
    rw [hlogging, hinstalled, Option.toList_none, List.length_nil, Nat.zero_add]
  · rw [hlogging, hregistered, Option.toList_none, List.append_nil]
    exact ⟨h.hooked.flag, h.hooked.slot⟩

/-- An initialization that installs the logger that it chooses is remembered. -/
lemma Tracks.concat_installed (hpast : Tracks past h) {settings : Config.Settings}
    {logger : Logger} (hfree : h.logging.initialized = false)
    (hchosen : h.chosen reader settings = .ok logger) (htrail : g.store.trail = [])
    (hlogging : g.logging = { h.logging with initialized := true }.withLogger settings logger) :
    Tracks (past ++ [⟨h, .setUp settings, .initialized (.ok ()), g⟩]) g := by
  obtain ⟨hlogger, hturn, -⟩ := Bootstrap.withLogger_frame { h.logging with initialized := true }
    settings logger
  have hinstalled : Turn.installed? ⟨h, .setUp settings, .initialized (.ok ()), g⟩ = some logger :=
    installed?_of_withLogger hchosen hlogging
  have hregistered : (Turn.registered? ⟨h, .setUp settings, .initialized (.ok ()), g⟩).toList =
      if settings.logging.registerHook then [⟨logger.file⟩] else [] := by
    unfold Turn.registered?
    dsimp only
    rw [hinstalled]
    cases settings.logging.registerHook <;> rfl
  -- Taking the turn does not concern the hooks.
  have hhooked : Hooked (past.filterMap Turn.registered?)
      { h.logging with initialized := true } := ⟨hpast.hooked.flag, hpast.hooked.slot⟩
  refine hpast.concat htrail ?_ ?_ ?_
  · dsimp only
    rw [hlogging, hturn, hfree]
    rfl
  · refine Nat.le_of_eq ?_
    rw [hinstalled]
    dsimp only
    rw [Host.logger_eq_none hchosen, hlogging, hlogger]
    rfl
  · rw [hregistered]
    dsimp only
    rw [hlogging]
    exact hhooked.withLogger settings logger

/-- As long as no initialization has settled the matter, the turn is free. -/
lemma Tracks.free (hpast : Tracks past h) (hnone : ∀ earlier ∈ past, ¬earlier.settles) :
    h.logging.initialized = false := by
  rw [hpast.settled]
  exact List.any_eq_false.mpr hnone

/-- Once an initialization has settled the matter, the turn is taken. -/
lemma Tracks.taken (hpast : Tracks past h) (hsome : ∃ earlier ∈ past, earlier.settles) :
    h.logging.initialized = true := by
  rw [hpast.settled]
  exact List.any_eq_true.mpr hsome

variable {settings : Config.Settings} {result : Except (Interruption Error) Unit}

/-- An initialization runs no hook. -/
lemma finished_of_initializes (hinit : Host.Initializes reader settings h result g) :
    g.logging.finished = h.logging.finished := by
  cases hinit with
  | repeated _ => rw [(h.deliverRecord_spec Host.repeatRecord).1]
  | refused _ _ _ hlogging => rw [hlogging]
  | panicked _ _ _ hlogging => rw [hlogging]
  | @installed logger _ _ _ _ hlogging =>
    rw [hlogging]
    exact (Bootstrap.withLogger_frame { h.logging with initialized := true } settings logger).2.2

/-- An initialization is orderly. -/
lemma Tracks.orderly_setUp (hpast : Tracks past h)
    (hinit : Host.Initializes reader settings h result g) :
    Turn.Orderly reader past ⟨h, .setUp settings, .initialized result, g⟩ where
  attempted := by
    rintro _ ⟨⟩ hnone
    have hfree := hpast.free hnone
    cases hinit with
    | repeated hbusy => cases hbusy.symm.trans hfree
    | refused _ hchosen _ _ =>
      rw [hchosen]
      exact ⟨rfl, nofun⟩
    | panicked _ hchosen _ _ =>
      rw [hchosen]
      exact ⟨rfl, nofun⟩
    | installed _ hchosen _ hlogging =>
      rw [hchosen]
      refine ⟨rfl, ?_⟩
      rintro _ ⟨⟩
      exact installed?_of_withLogger hchosen hlogging
  failed := by
    rintro cause ⟨⟩
    cases hinit with
    | refused _ _ _ hlogging => exact hlogging ▸ rfl
    | panicked _ _ _ hlogging => exact hlogging ▸ rfl
  refused := by
    rintro cause ⟨⟩
    cases hinit with
    | refused hfree _ _ hlogging => exact ⟨hfree, hlogging ▸ hfree⟩
    | panicked hfree _ _ hlogging => exact ⟨hfree, hlogging ▸ rfl⟩
  repeated := by
    rintro _ ⟨⟩ hsome
    have hbusy := hpast.taken hsome
    cases hinit with
    | repeated _ => exact ⟨rfl, rfl⟩
    | refused hfree _ _ _ => cases hbusy.symm.trans hfree
    | panicked hfree _ _ _ => cases hbusy.symm.trans hfree
    | installed hfree _ _ _ => cases hbusy.symm.trans hfree
  registered := nofun
  kept := by
    intro logger hlogger
    cases hinit with
    | repeated _ => rw [← hlogger, (h.deliverRecord_spec Host.repeatRecord).1]
    | refused _ _ _ hlogging => rw [← hlogger, hlogging]
    | panicked _ _ _ hlogging => rw [← hlogger, hlogging]
    | installed _ hchosen _ _ => cases hlogger.symm.trans (Host.logger_eq_none hchosen)
  ran := nofun
  idle := nofun
  unrun _ := finished_of_initializes hinit

/-- An initialization is remembered. -/
lemma Tracks.setUp (hpast : Tracks past h) (hinit : Host.Initializes reader settings h result g) :
    Tracks (past ++ [⟨h, .setUp settings, .initialized result, g⟩]) g := by
  cases hinit with
  | repeated hbusy =>
    obtain ⟨hlogging, htrail⟩ := h.deliverRecord_spec Host.repeatRecord
    refine hpast.concat_setUp rfl (htrail.trans hpast.delivered) ?_
    dsimp only
    rw [hlogging, hbusy, Bool.true_or, ← hbusy]
  | refused hfree _ htrail hlogging =>
    refine hpast.concat_setUp rfl htrail ?_
    dsimp only
    rw [hlogging, hfree, Bool.false_or]
    show h.logging = { h.logging with initialized := false }
    rw [← hfree]
  | panicked hfree _ htrail hlogging =>
    refine hpast.concat_setUp rfl htrail ?_
    dsimp only
    rw [hlogging, hfree, Bool.false_or]
    rfl
  | installed hfree hchosen htrail hlogging =>
    exact hpast.concat_installed hfree hchosen htrail hlogging

/-- A request to register a hook is orderly, and it is remembered. -/
lemma Tracks.register (hpast : Tracks past h) (hook : Hook) :
    ((Request.register hook).turn reader h).Orderly reader past ∧
      Tracks (past ++ [(Request.register hook).turn reader h])
        ((Request.register hook).turn reader h).after := by
  obtain ⟨hfirst, hhooked⟩ := hpast.hooked.register hook
  obtain ⟨hlogger, hturn, hfinished⟩ := h.logging.registerHook_frame hook
  constructor
  · refine orderly_of_ne nofun nofun nofun ?_ ?_ hfinished
    · rintro _ ⟨⟩
      rw [← hfirst]
      rfl
    · exact fun logger hbefore => hlogger.trans hbefore
  · refine hpast.concat hpast.delivered ?_ ?_ hhooked
    · exact hturn.trans (Bool.or_false _).symm
    · refine Nat.le_of_eq ?_
      show 0 + h.logging.logger.toList.length =
        (h.logging.registerHook hook).2.logger.toList.length
      rw [hlogger, Nat.zero_add]

/-- A request to run the hook is orderly. -/
lemma Tracks.orderly_runHook (hpast : Tracks past h) :
    (Request.runHook.turn reader h).Orderly reader past where
  attempted := nofun
  failed := nofun
  refused := nofun
  repeated := nofun
  registered := nofun
  kept := by
    intro logger hbefore
    have hsame := congrArg Bootstrap.logger (Host.runHook_spec hpast.delivered).2
    exact hsame.trans hbefore
  ran := by
    intro _ hook hbefore
    have hsome : h.logging.hook = some hook := hbefore
    refine ⟨congrArg Prod.snd (Host.runHook_of_some hsome), ?_⟩
    have hfinished := congrArg Bootstrap.finished (Host.runHook_spec hpast.delivered).2
    rw [hsome] at hfinished
    exact hfinished
  idle _ hnone := Host.runHook_of_none hnone
  unrun hother := absurd rfl hother

/-- A request to run the hook is remembered. -/
lemma Tracks.runHook (hpast : Tracks past h) :
    Tracks (past ++ [Request.runHook.turn reader h]) (Request.runHook.turn reader h).after := by
  obtain ⟨htrail, hlogging⟩ := Host.runHook_spec hpast.delivered
  have hafter : (Request.runHook.turn reader h).after.logging = { h.logging with
      hook := none, finished := h.logging.hook.toList ++ h.logging.finished } := hlogging
  refine hpast.concat htrail ?_ ?_ ?_
  · rw [hafter]
    exact (Bool.or_false _).symm
  · rw [hafter]
    exact Nat.le_of_eq (Nat.zero_add _)
  · rw [hafter]
    exact (List.append_nil _).symm ▸ hpast.hooked.run

/-- A turn that concerns neither initializations nor hooks, and leaves a logger where it is, is
remembered. -/
lemma Tracks.concat_other (hpast : Tracks past t.before) (hdelivered : t.after.store.trail = [])
    (hsettles : t.settles = false) (hinstalled : t.installed? = none)
    (hregistered : t.registered? = none) {present : Option Logger}
    (hlogging : t.after.logging = { t.before.logging with logger := present })
    (hkept : ∀ logger, t.before.logging.logger = some logger → present = some logger) :
    Tracks (past ++ [t]) t.after := by
  refine hpast.concat hdelivered ?_ ?_ ?_
  · rw [hlogging, hsettles, Bool.or_false]
  · rw [hlogging, hinstalled]
    cases hbefore : t.before.logging.logger with
    | none => exact Nat.zero_le _
    | some logger =>
      refine Nat.le_of_eq ?_
      rw [hkept logger hbefore, Option.toList_none, List.length_nil, Nat.zero_add]
  · rw [hlogging, hregistered, Option.toList_none, List.append_nil]
    exact ⟨hpast.hooked.flag, hpast.hooked.slot⟩

/-- A logger of another part of the program is orderly, and it is remembered. -/
lemma Tracks.adopt (hpast : Tracks past h) (logger : Logger) :
    ((Request.adopt logger).turn reader h).Orderly reader past ∧
      Tracks (past ++ [(Request.adopt logger).turn reader h])
        ((Request.adopt logger).turn reader h).after := by
  obtain ⟨present, hset, hkept⟩ := Host.setLogger_spec logger h
  have hafter : ((Request.adopt logger).turn reader h).after.logging =
      { h.logging with logger := present } := congrArg Host.logging hset
  constructor
  · refine orderly_of_ne nofun nofun nofun nofun ?_ ?_
    · rw [hafter]
      exact hkept
    · rw [hafter]
      rfl
  · refine hpast.concat_other ?_ rfl rfl rfl hafter hkept
    exact (congrArg (fun g : Host => g.store.trail) hset).trans hpast.delivered

/-- What the rest of the program does is orderly, and it is remembered. -/
lemma Tracks.work (hpast : Tracks past h) (action : Action Unit) :
    ((Request.work action).turn reader h).Orderly reader past ∧
      Tracks (past ++ [(Request.work action).turn reader h])
        ((Request.work action).turn reader h).after := by
  have hafter : ((Request.work action).turn reader h).after.logging = h.logging :=
    Host.run_logging action h
  constructor
  · refine orderly_of_ne nofun nofun nofun nofun ?_ (congrArg Bootstrap.finished hafter)
    rw [hafter]
    exact fun _ => id
  · exact hpast.concat_other (Host.run_trail action h) rfl rfl rfl hafter fun _ => id

variable (reader)

/-- Every request is orderly, and it is remembered. -/
lemma Tracks.turn (hpast : Tracks past h) (request : Request) :
    (request.turn reader h).Orderly reader past ∧
      Tracks (past ++ [request.turn reader h]) (request.turn reader h).after := by
  cases request with
  | setUp settings =>
    have hinit := Host.initializes reader settings hpast.delivered
    exact ⟨hpast.orderly_setUp hinit, hpast.setUp hinit⟩
  | register hook => exact hpast.register hook
  | runHook => exact ⟨hpast.orderly_runHook, hpast.runHook⟩
  | adopt logger => exact hpast.adopt logger
  | work action => exact hpast.work action

/-- All requests of a run are orderly, and they are remembered. -/
lemma Tracks.turns (hpast : Tracks past h) (requests : List Request) :
    (∀ before t later, turns reader requests h = before ++ t :: later →
        t.Orderly reader (past ++ before)) ∧
      Tracks (past ++ turns reader requests h) (afterAll reader requests h) := by
  -- The turns before the run grow by one with every request, so that they are kept general.
  induction requests generalizing past h with
  | nil =>
    constructor
    · intro before t later heq
      cases before <;> cases heq
    · show Tracks (past ++ []) h
      rw [List.append_nil]
      exact hpast
  | cons request requests ih =>
    obtain ⟨horderly, hnext⟩ := hpast.turn reader request
    obtain ⟨hlater, hlast⟩ := ih hnext
    rw [List.append_assoc, List.singleton_append] at hlast
    refine ⟨?_, hlast⟩
    intro before t later heq
    cases before with
    | nil =>
      cases heq
      rw [List.append_nil]
      exact horderly
    | cons first before =>
      obtain ⟨rfl, hrest⟩ := List.cons_eq_cons.mp heq
      have hturn := hlater before t later hrest
      rw [List.append_assoc, List.singleton_append] at hturn
      exact hturn

end

variable (reader : FilterReader)

/-- Logging starts at most once, and so does the shutdown.  Whatever is asked of a process, in any
order, and however filters are read, every turn is as it should be after the turns before it: an
initialization that fails leaves the logger and the hooks as they were, and the turn free for a
later one, which installs the logger that it chooses, unless it panics; and after one that has
succeeded, or panicked, all others succeed and only leave a record to the logger.  At most one
initialization installs a logger.  The hooks that have run, each of them in a turn of its own, and
the one that is still to run are together the first hook that is registered. -/
theorem bootstraps_once (files : FileSystem) (requests : List Request) :
    (∀ past t later, turns reader requests (.start files) = past ++ t :: later →
        t.Orderly reader past) ∧
      ((turns reader requests (.start files)).filterMap Turn.installed?).length ≤ 1 ∧
      (afterAll reader requests (.start files)).logging.finished.reverse ++
          (afterAll reader requests (.start files)).logging.hook.toList =
        ((turns reader requests (.start files)).filterMap Turn.registered?).take 1 := by
  obtain ⟨horderly, hremembered⟩ := (tracks_start files).turns reader requests
  rw [List.nil_append] at hremembered
  refine ⟨horderly, Nat.le_trans hremembered.single ?_, hremembered.hooked.slot⟩
  cases (afterAll reader requests (.start files)).logging.logger with
  | none => exact Nat.zero_le 1
  | some logger => exact Nat.le_refl 1

/-! ### A small process -/

/-- A configuration that logs everything from debugging on to a file, and registers the hook of its
logger. -/
def loudSettings (file : String) : Config.Settings :=
  ⟨true, false, false, ⟨.ofList [(rootName, .debug)], .empty, ⟨some file, none⟩, true⟩⟩

/-- The filter of the sample. -/
lemma filterOf_loudSettings (file : String) :
    filterOf Rule.reader (loudSettings file) = .ok (Rule.pass [⟨[], Severity.debug.rank⟩]) := by
  -- Sorting does not compute, but there is nothing to be sorted.
  have hnamed : Directive.named (loudSettings file) = [] := by
    have hentries : ((Table.ofList [(rootName, Level.debug)]).entries.filter fun entry =>
        entry.1 ≠ rootName) = [] := by decide +kernel
    unfold Directive.named loudSettings
    rw [hentries, List.mergeSort_nil]
  have htext : filterText (loudSettings file) = "debug" := by
    unfold filterText Directive.ofSettings
    rw [hnamed]
    show ",".intercalate [Directive.text
      ⟨none, ((Table.ofList [(rootName, Level.debug)]).get? rootName).getD .standard⟩] = _
    decide +kernel
  have hread : Rule.ofTexts "debug".toList = .ok [⟨[], Severity.debug.rank⟩] := by decide +kernel
  unfold filterOf Rule.reader
  rw [htext, hread]
  rfl

/-- The logger of the sample. -/
lemma loggerOf_loudSettings (file : String) : loggerOf Rule.reader (loudSettings file) = do
    let filter ← ExceptT.mk (pure (.ok (Rule.pass [⟨[], Severity.debug.rank⟩])))
    return ⟨filter, ← ExceptT.adapt .error (openFile (loudSettings file))⟩ := by
  unfold loggerOf
  rw [filterOf_loudSettings]

/-- Requests to log to a directory, then twice to log to a file, and then to register another hook
and to run the hook twice. -/
def sampleRequests : List Request :=
  [.setUp (loudSettings "."), .setUp (loudSettings "app.log"),
    .setUp (loudSettings "app.log"), .register ⟨none⟩, .runHook, .runHook]

/-- The first initialization is refused and the other two succeed; and the only hook that runs is
that of the logger. -/
theorem bootstraps_once_sampleRequests :
    (turns Rule.reader sampleRequests (.start .fresh)).map Turn.answer =
        [.initialized (.error (.error (.logFile ⟨"."⟩ .isDirectory))), .initialized (.ok ()),
          .initialized (.ok ()), .registered false, .done, .done] ∧
      (afterAll Rule.reader sampleRequests (.start .fresh)).logging.hook = none ∧
      (afterAll Rule.reader sampleRequests (.start .fresh)).logging.finished.reverse ++
          (afterAll Rule.reader sampleRequests (.start .fresh)).logging.hook.toList =
        [⟨some ⟨"app.log"⟩⟩] := by
  obtain ⟨-, -, hhooks⟩ := bootstraps_once Rule.reader .fresh sampleRequests
  rw [hhooks]
  simp only [sampleRequests, turns, afterAll, List.foldl_cons, List.foldl_nil, Request.turn,
    Request.perform, Host.initializeLogging, Host.install, loggerOf_loudSettings]
  decide +kernel

/-- A configuration with a level for a name that begins with a wide blank, at which the reader of
filters panics. -/
def oddSettings : Config.Settings :=
  ⟨true, false, false, ⟨.ofList [("\u3000ab", .info)], .empty, ⟨none, none⟩, false⟩⟩

/-- The panic of the reader of filters. -/
def oddPanic : String :=
  "end byte index 2 is not a char boundary; it is inside '\\u\x7b3000\x7d' (bytes 0..3 of string)"

/-- No logger is made of the odd configuration. -/
lemma loggerOf_oddSettings : loggerOf Rule.reader oddSettings = throw (.panic oddPanic) := by
  have hnamed : Directive.named oddSettings = [("\u3000ab", .info)] := by
    have hentries : ((Table.ofList [("\u3000ab", Level.info)]).entries.filter fun entry =>
        entry.1 ≠ rootName) = [("\u3000ab", .info)] := by decide +kernel
    unfold Directive.named oddSettings
    rw [hentries, List.mergeSort_singleton]
  have htext : filterText oddSettings = "info,\u3000ab=info" := by
    unfold filterText Directive.ofSettings
    rw [hnamed]
    decide +kernel
  have hread : Rule.ofTexts "info,\u3000ab=info".toList = .error (.panic oddPanic) := by
    decide +kernel
  unfold loggerOf filterOf Rule.reader
  rw [htext, hread]
  rfl

/-- An initialization after one that has succeeded may add to the log file.  One that panics keeps
the turn, and a later one succeeds without a logger. -/
theorem setUp_leaves_traces :
    (let first := (Request.setUp (loudSettings "app.log")).turn Rule.reader (.start .fresh)
    let second := (Request.setUp (loudSettings "app.log")).turn Rule.reader first.after
    first.answer = .initialized (.ok ()) ∧ second.answer = .initialized (.ok ()) ∧
      second.after.store.files.read ⟨"app.log"⟩ ≠ second.before.store.files.read ⟨"app.log"⟩) ∧
    let first := (Request.setUp oddSettings).turn Rule.reader (.start .fresh)
    let second := (Request.setUp (loudSettings "app.log")).turn Rule.reader first.after
    first.answer = .initialized (.error (.panic oddPanic)) ∧
      first.before.logging.initialized = false ∧ first.after.logging.initialized = true ∧
      second.answer = .initialized (.ok ()) ∧ second.after.logging.logger.isNone := by
  simp only [Request.turn, Request.perform, Host.initializeLogging, Host.install,
    loggerOf_loudSettings, loggerOf_oddSettings]
  decide +kernel

end Logging

end AppLauncher
