import BrowserPolicy.Gateway.Run
import BrowserPolicy.Proofs.Config.Sound
import BrowserPolicy.Proofs.Gateway.InstallationLog
import BrowserPolicy.Proofs.List.Pointwise

/-!
How a run of the gateway starts. The configuration is at fault, a policy fails, or all policies are
installed; only in the last case does the run report that it starts, and only after it has reported
every policy. A run that does not get its address reports one error, which is its last event.
-/

namespace BrowserPolicy.Gateway.Run

open PolicyConfig

variable {contents : Except ReadFault String}
  {bind : Net.SocketAddress → Except SystemError Unit} {config : Config}
  {fields : List Http.HeaderField}

def lines (run : Run) : List LogLine :=
  run.events.map Event.line

def startingLine (listen : Net.SocketAddress) : LogLine :=
  ⟨.info, "fpolicy-gateway starting", [("listen", listen.text)]⟩

def gaveUpLine (fault : StartupFault) : LogLine :=
  ⟨.error, "fpolicy-gateway failed", [("error", fault.text)]⟩

/-- The line is no error, and it does not tell of a start. -/
def Quiet (line : LogLine) : Prop :=
  line.level ≠ .error ∧ line.message ≠ "fpolicy-gateway starting"

structure Ready (contents : Except ReadFault String) (config : Config)
    (fields : List Http.HeaderField) : Prop where
  loads : Config.ofFile contents = .ok config
  installs : List.Forall₂ Installs config.policies fields

def Binds (contents : Except ReadFault String)
    (bind : Net.SocketAddress → Except SystemError Unit) : Prop :=
  ∃ config fields listen, Ready contents config fields ∧ config.listenAddress = .ok listen ∧
    bind listen = .ok ()

/-- What a configuration can come to before an address is bound. -/
theorem fault_or_refused_or_ready (contents : Except ReadFault String) :
    (∃ error, Config.ofFile contents = .error error) ∨
      (∃ config error, Config.ofFile contents = .ok config ∧
        (Installation.ofPolicies config.policies).outcome = .error error) ∨
      ∃ config fields, Ready contents config fields := by
  cases hload : Config.ofFile contents with
  | error error => exact Or.inl ⟨error, rfl⟩
  | ok config =>
    cases houtcome : (Installation.ofPolicies config.policies).outcome with
    | error error => exact Or.inr (Or.inl ⟨config, error, rfl, houtcome⟩)
    | ok fields =>
      have hinstalls := Installation.ofPolicies_outcome_eq_ok_iff.1 houtcome
      exact Or.inr (Or.inr ⟨config, fields, hload, hinstalls⟩)

/-- A configuration that loads has an address to listen on. -/
theorem exists_listenAddress (h : Config.ofFile contents = .ok config) :
    ∃ listen, config.listenAddress = .ok listen := by
  cases contents with
  | error fault => cases h
  | ok text => exact (Config.sound_of_ofText h).address

theorem start_of_fault {error : PolicyError} (h : Config.ofFile contents = .error error) :
    start contents bind = giveUp [] (.policy error) := by
  simp only [start, h]

theorem start_of_refused {error : PolicyError} (hload : Config.ofFile contents = .ok config)
    (h : (Installation.ofPolicies config.policies).outcome = .error error) :
    start contents bind =
      giveUp (Installation.ofPolicies config.policies).events (.policy error) := by
  obtain ⟨listen, hlisten⟩ := exists_listenAddress hload
  simp only [start, hload, hlisten, h]

theorem lines_giveUp (events : List Event) (fault : StartupFault) :
    (giveUp events fault).lines = events.map Event.line ++ [gaveUpLine fault] := by
  simp [lines, giveUp, gaveUpLine, Event.line, Event.level, Event.message, Event.fields]

theorem lines_of_fault {error : PolicyError} (h : Config.ofFile contents = .error error) :
    (start contents bind).lines = [gaveUpLine (.policy error)] := by
  rw [start_of_fault h, lines_giveUp]
  rfl

theorem lines_of_refused {error : PolicyError} (hload : Config.ofFile contents = .ok config)
    (h : (Installation.ofPolicies config.policies).outcome = .error error) :
    (start contents bind).lines =
      (Installation.ofPolicies config.policies).lines ++ [gaveUpLine (.policy error)] := by
  rw [start_of_refused hload h, lines_giveUp]
  rfl

/-- Behind the policies a run that is ready reports its start and then, if the address is refused,
that it gives up. -/
theorem lines_of_ready (h : Ready contents config fields)
    (bind : Net.SocketAddress → Except SystemError Unit) :
    ∃ listen, config.listenAddress = .ok listen ∧
      ((∃ error, bind listen = .error error ∧
          (start contents bind).lines = installedLines config.policies fields ++
            [startingLine listen, gaveUpLine (.bind error)] ∧
          (start contents bind).ending = .failed (.bind error)) ∨
        bind listen = .ok () ∧
          (start contents bind).lines =
            installedLines config.policies fields ++ [startingLine listen] ∧
          (start contents bind).ending = .serving fields) := by
  obtain ⟨hload, hinstalls⟩ := h
  obtain ⟨listen, hlisten⟩ := exists_listenAddress hload
  obtain ⟨houtcome, hlines⟩ := Installation.ofPolicies_of_installs hinstalls
  refine ⟨listen, hlisten, ?_⟩
  -- The start is reported before the address is bound, so both answers follow the same events.
  have hevents : ((Installation.ofPolicies config.policies).events ++
      [Event.starting listen]).map Event.line =
        installedLines config.policies fields ++ [startingLine listen] := by
    rw [List.map_append, ← hlines]
    rfl
  cases hbind : bind listen with
  | error error =>
    have hstart : start contents bind =
        giveUp ((Installation.ofPolicies config.policies).events ++ [.starting listen])
          (.bind error) := by
      simp only [start, hload, hlisten, houtcome, hbind]
    refine Or.inl ⟨error, rfl, ?_, by rw [hstart]; rfl⟩
    rw [hstart, lines_giveUp, hevents, List.append_assoc]
    rfl
  | ok =>
    have hstart : start contents bind =
        ⟨(Installation.ofPolicies config.policies).events ++ [.starting listen],
          .serving fields⟩ := by
      simp only [start, hload, hlisten, houtcome, hbind]
    refine Or.inr ⟨rfl, ?_, by rw [hstart]⟩
    rw [hstart, lines, hevents]

theorem quiet_of_mem_installation {policies : List PolicyConfig} {line : LogLine}
    (h : line ∈ (Installation.ofPolicies policies).lines) : Quiet line := by
  have hcompiled (p : PolicyConfig) : Quiet p.compiledLine := by
    simp [Quiet, compiledLine]
  have hrejected (p : PolicyConfig) (error : PolicyError) : Quiet (p.rejectedLine error) := by
    simp [Quiet, rejectedLine]
  have hinstalled (p : PolicyConfig) (value : Http.HeaderValue) :
      Quiet (p.installedLine value) := by
    simp [Quiet, installedLine]
  have hfailed (p : PolicyConfig) (error : PolicyError) : Quiet (p.failedLine error) := by
    simp [Quiet, failedLine]
  induction policies with
  | nil => simp [Installation.ofPolicies, Installation.lines] at h
  | cons p rest ih =>
    cases hp : p.compilation.toField with
    | error error =>
      have hlines : (Installation.ofPolicies (p :: rest)).lines =
          [p.compilation.event.line, p.failedLine error] :=
        (Installation.ofPolicies_of_first_failure .nil hp rest).2
      have hevent : Quiet p.compilation.event.line := by
        rcases Installation.line_event_of_fails hp with ⟨-, hline⟩ | ⟨-, hline⟩
        · rw [hline]
          exact hrejected p error
        · rw [hline]
          exact hcompiled p
      rw [hlines, List.mem_pair] at h
      rcases h with rfl | rfl
      · exact hevent
      · exact hfailed p error
    | ok field =>
      rw [(Installation.ofPolicies_cons_of_installs hp rest).2, List.mem_cons,
        List.mem_cons] at h
      rcases h with rfl | rfl | h
      · exact hcompiled p
      · exact hinstalled p field.value
      · exact ih h

theorem quiet_of_mem_installedLines {policies : List PolicyConfig}
    (h : List.Forall₂ Installs policies fields) {line : LogLine}
    (hline : line ∈ installedLines policies fields) : Quiet line := by
  rw [← (Installation.ofPolicies_of_installs h).2] at hline
  exact quiet_of_mem_installation hline

/-- A run that is not ready gives up without having reported a start or an error before. -/
theorem gives_up_or_ready (contents : Except ReadFault String)
    (bind : Net.SocketAddress → Except SystemError Unit) :
    (∃ before fault, (start contents bind).ending = .failed fault ∧
      (start contents bind).lines = before ++ [gaveUpLine fault] ∧ ∀ line ∈ before, Quiet line) ∨
      ∃ config fields, Ready contents config fields := by
  rcases fault_or_refused_or_ready contents with
    ⟨error, hfault⟩ | ⟨config, error, hload, herror⟩ | hready
  · have hending : (start contents bind).ending = .failed (.policy error) := by
      rw [start_of_fault hfault]
      rfl
    exact Or.inl ⟨[], _, hending, lines_of_fault hfault, by simp⟩
  · have hending : (start contents bind).ending = .failed (.policy error) := by
      rw [start_of_refused hload herror]
      rfl
    have hquiet : ∀ line ∈ (Installation.ofPolicies config.policies).lines, Quiet line := by
      intro line hline
      exact quiet_of_mem_installation hline
    exact Or.inl ⟨_, _, hending, lines_of_refused hload herror, hquiet⟩
  · exact Or.inr hready

theorem reports_start_iff :
    (∃ line ∈ (start contents bind).lines, line.message = "fpolicy-gateway starting") ↔
      ∃ config fields, Ready contents config fields := by
  constructor
  · intro h
    obtain ⟨line, hline, hmessage⟩ := h
    rcases gives_up_or_ready contents bind with ⟨before, fault, -, hlines, hquiet⟩ | hready
    · rw [hlines, List.mem_append, List.mem_singleton] at hline
      rcases hline with hline | rfl
      · exact absurd hmessage (hquiet line hline).2
      · simp [gaveUpLine] at hmessage
    · exact hready
  · intro h
    obtain ⟨config, fields, hready⟩ := h
    obtain ⟨listen, -, ⟨_, -, hlines, -⟩ | ⟨-, hlines, -⟩⟩ := lines_of_ready hready bind
    · exact ⟨startingLine listen, by simp [hlines], rfl⟩
    · exact ⟨startingLine listen, by simp [hlines], rfl⟩

/-- The last event of a run that does not come to serve is its only error. -/
theorem ends_with_error_of_not_binds (h : ¬ Binds contents bind) :
    ∃ before fault, (start contents bind).ending = .failed fault ∧
      (start contents bind).lines = before ++ [gaveUpLine fault] ∧
      ∀ line ∈ before, line.level ≠ .error := by
  rcases gives_up_or_ready contents bind with
    ⟨before, fault, hending, hlines, hquiet⟩ | ⟨config, fields, hready⟩
  · exact ⟨before, fault, hending, hlines, fun line hline => (hquiet line hline).1⟩
  · obtain ⟨listen, hlisten, ⟨error, -, hlines, hending⟩ | ⟨hbind, -⟩⟩ :=
      lines_of_ready hready bind
    · refine ⟨installedLines config.policies fields ++ [startingLine listen], _, hending, ?_, ?_⟩
      · rw [hlines, List.append_assoc]
        rfl
      · intro line hline
        rcases List.mem_append.1 hline with hline | hline
        · exact (quiet_of_mem_installedLines hready.installs hline).1
        · rw [List.mem_singleton.1 hline]
          simp [startingLine]
    · exact absurd ⟨config, fields, listen, hready, hlisten, hbind⟩ h

theorem exitCode_of_failed {run : Run} {fault : StartupFault} (h : run.ending = .failed fault) :
    run.exitCode = some 1 := by
  obtain ⟨events, ending⟩ := run
  cases h
  rfl

theorem exists_ready_iff (contents : Except ReadFault String) :
    (∃ config fields, Ready contents config fields) ↔
      ∃ config, Config.ofFile contents = .ok config ∧
        ∀ p ∈ config.policies, ∃ field, p.Installs field := by
  constructor
  · intro h
    obtain ⟨config, fields, hload, hinstalls⟩ := h
    exact ⟨config, hload, exists_forall₂_iff.1 ⟨fields, hinstalls⟩⟩
  · intro h
    obtain ⟨config, hload, heach⟩ := h
    obtain ⟨fields, hinstalls⟩ := exists_forall₂_iff.2 heach
    exact ⟨config, fields, hload, hinstalls⟩

/-- A run reports that it starts exactly when its configuration loads and every policy in it can be
installed. The report then stands behind those of all policies. A configuration that does not load
leaves its error and nothing else; a policy that fails leaves the log of the installation and then
its own error. A run that does not get its address exits with one, and its last event is its only
error. -/
theorem gateway_starts_only_with_all_policies (contents : Except ReadFault String)
    (bind : Net.SocketAddress → Except SystemError Unit) :
    ((∃ line ∈ (start contents bind).lines, line.message = "fpolicy-gateway starting") ↔
      ∃ config, Config.ofFile contents = .ok config ∧
        ∀ p ∈ config.policies, ∃ field, p.Installs field) ∧
    (∀ config fields, Config.ofFile contents = .ok config →
      List.Forall₂ Installs config.policies fields →
      ∃ listen last, config.listenAddress = .ok listen ∧
        (start contents bind).lines =
          installedLines config.policies fields ++ startingLine listen :: last ∧
        (bind listen = .ok () ∧ last = [] ∧ (start contents bind).ending = .serving fields ∨
          ∃ error, bind listen = .error error ∧ last = [gaveUpLine (.bind error)])) ∧
    (∀ error, Config.ofFile contents = .error error →
      (start contents bind).lines = [gaveUpLine (.policy error)]) ∧
    (∀ config before p after fields error, Config.ofFile contents = .ok config →
      config.policies = before ++ p :: after → List.Forall₂ Installs before fields →
      p.compilation.toField = .error error →
      (start contents bind).lines =
        (Installation.ofPolicies config.policies).lines ++ [gaveUpLine (.policy error)]) ∧
    (¬ Binds contents bind →
      (start contents bind).exitCode = some 1 ∧
        ∃ before fault, (start contents bind).lines = before ++ [gaveUpLine fault] ∧
          ∀ line ∈ before, line.level ≠ .error) := by
  refine ⟨?_, ?_, ?_, ?_, ?_⟩
  · rw [reports_start_iff, exists_ready_iff]
  · intro config fields hload hinstalls
    obtain ⟨listen, hlisten, hrun⟩ := lines_of_ready ⟨hload, hinstalls⟩ bind
    rcases hrun with ⟨error, hbind, hlines, -⟩ | ⟨hbind, hlines, hending⟩
    · exact ⟨listen, _, hlisten, hlines, Or.inr ⟨error, hbind, rfl⟩⟩
    · exact ⟨listen, _, hlisten, hlines, Or.inl ⟨hbind, rfl, hending⟩⟩
  · intro error hfault
    exact lines_of_fault hfault
  · intro config before p after fields error hload hpolicies hbefore hp
    have houtcome : (Installation.ofPolicies config.policies).outcome = .error error := by
      rw [hpolicies]
      exact (Installation.ofPolicies_of_first_failure hbefore hp after).1
    exact lines_of_refused hload houtcome
  · intro h
    obtain ⟨before, fault, hending, hlines, hquiet⟩ := ends_with_error_of_not_binds h
    exact ⟨exitCode_of_failed hending, before, fault, hlines, hquiet⟩

/-- The address is taken: the run has reported its policy and its start when it gives up. -/
theorem usb_gateway_gives_up_when_address_in_use :
    ∃ run, run = start
          (.ok "version: 1\npolicies:\n- dialect: permissions\n  features:\n    usb: []\n")
          (fun _ => .error .addressInUse) ∧
      run.lines =
        [⟨.debug, "policy compiled", [("dialect", "permissions"),
            ("header", "Permissions-Policy"), ("features", "1")]⟩,
          ⟨.info, "policy header installed",
            [("header", "permissions-policy"), ("value", "\"usb=()\"")]⟩,
          ⟨.info, "fpolicy-gateway starting", [("listen", "0.0.0.0:8080")]⟩,
          ⟨.error, "fpolicy-gateway failed",
            [("error", "Address already in use (os error 98)")]⟩] ∧
      run.exitCode = some 1 := by
  have hload : Config.ofFile
      (.ok "version: 1\npolicies:\n- dialect: permissions\n  features:\n    usb: []\n") =
      .ok ⟨1, "0.0.0.0:8080", [⟨.permissions, .object [("usb", .array [])]⟩]⟩ := by cbv
  have hinstalls : List.Forall₂ Installs [⟨.permissions, .object [("usb", .array [])]⟩]
      [⟨"permissions-policy", ⟨"usb=()", by decide⟩⟩] :=
    Installation.ofPolicies_outcome_eq_ok_iff.1 (by decide +kernel)
  have hlisten : Config.listenAddress
      ⟨1, "0.0.0.0:8080", [⟨.permissions, .object [("usb", .array [])]⟩]⟩ =
      .ok (.v4 ⟨0, 0, 0, 0⟩ 8080) := by decide
  refine ⟨_, rfl, ?_⟩
  obtain ⟨-, hready, -, -, hends⟩ := gateway_starts_only_with_all_policies
    (.ok "version: 1\npolicies:\n- dialect: permissions\n  features:\n    usb: []\n")
    fun _ => .error .addressInUse
  have hexit := (hends (by rintro ⟨_, _, _, -, -, hbind⟩; cases hbind)).1
  obtain ⟨listen, last, hsame, hlines, hlast⟩ := hready _ _ hload hinstalls
  cases hlisten.symm.trans hsame
  refine ⟨?_, hexit⟩
  rcases hlast with ⟨hbind, -⟩ | ⟨error, hbind, rfl⟩
  · cases hbind
  · cases hbind
    rw [hlines]
    cbv

end BrowserPolicy.Gateway.Run
