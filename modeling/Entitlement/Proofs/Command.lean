import Entitlement.Command.Run
import Entitlement.Proofs.Record.Normal
import Entitlement.Proofs.Resolution.Identity
import Mathlib.Data.List.Forall2

/-!
# What the command `check` answers

The command looks up the actor itself, gives up on an actor without a record before there is a
policy, and asks in the name of the record that it found.  A caller of the library resolves the
actor by its identifier and asks in nobody's name.  Both get the same answer, because

* the actor without a record resolves to the policy without rules, which denies everything;
* a resolved policy has the actor beside its rules, so it makes no difference whether the query
  brings that identity (`Policy.can_madeBy_eq`);
* errors come from the lookup of the actor or from the resolution, which both ask for.

Every check can be asked for at the command line.  A value that stands in an argument of its own
may be taken for an option.  Behind the name of its option and an equals sign it never is: such an
argument sets the option to the value, whatever the value is (`ofText_optionText`), and a list of
such arguments sets the options one after the other (`readArguments_options`).  So there are
arguments for every check of whatever actor, action, subject and field (`ofArguments_check`).
-/

namespace Entitlement

/-! ## Every check can be asked for -/

namespace Command

/-! ### Attributes -/

/-- An attribute whose value is no JSON has the text behind the equals sign. -/
theorem readAttribute_of_text {raw name value : String}
    (hraw : raw.toList = name.toList ++ '=' :: value.toList) (hname : '=' ∉ name.toList)
    (htrim : Text.trim name = name) (hsome : name.isEmpty = false)
    (hvalue : Json.parse? value = none) : readAttribute raw = .ok (name, .str value) := by
  rw [readAttribute, hraw, Text.splitOnce?_append_separator hname]
  simp only [String.ofList_toList, htrim, hsome, hvalue, Option.getD_none]
  rfl

/-! ### Options with their values -/

/-- An option with its value, in one argument. -/
def optionText (option : Flag × String) : String := "--" ++ option.1.name ++ "=" ++ option.2

theorem ofText_optionText (option : Flag × String) :
    Argument.ofText (optionText option) = .long option.1.name (some option.2) := by
  obtain ⟨flag, value⟩ := option
  have hchars : (optionText (flag, value)).toList =
      '-' :: '-' :: (flag.name.toList ++ '=' :: value.toList) := by
    simp [optionText]
  have hfree : '=' ∉ flag.name.toList := by cases flag <;> decide
  have hsplit := Text.splitOnce?_append_separator hfree value.toList
  rw [Argument.ofText, hchars]
  -- Two hyphens alone would end the options, but the name of the option stands behind them.
  cases hrest : flag.name.toList ++ '=' :: value.toList with
  | nil => simp at hrest
  | cons c rest =>
      rw [hrest] at hsplit
      simp only [hsplit, String.ofList_toList]

theorem find?_name {form : Form} {flag : Flag} (hflag : flag ∈ form.flags) :
    form.flags.find? (·.name == flag.name) = some flag := by
  -- Flags are told apart by their names, in whatever form of the command.
  have hnames : ∀ one other : Flag, one.name = other.name → one = other := by
    intro one other
    cases one <;> cases other <;> decide
  cases hfind : form.flags.find? (·.name == flag.name) with
  | none =>
      have hnone := List.find?_eq_none.mp hfind flag hflag
      simp at hnone
  | some found =>
      have hname : found.name = flag.name := by simpa using List.find?_some hfind
      rw [hnames found flag hname]

theorem readArguments_cons {form : Form} {flag : Flag} (hflag : flag ∈ form.flags)
    (value : String) (settings : Settings) (rest : List String) :
    readArguments form .nothing settings (optionText (flag, value) :: rest) =
      (settings.set flag value >>= fun settings => readArguments form .nothing settings rest) := by
  have hfind := find?_name hflag
  rw [readArguments, ofText_optionText]
  split
  · contradiction
  · contradiction
  · contradiction
  · -- The option that asks for help has no value.
    rename_i hhelp
    exact absurd (Argument.long.inj hhelp).2 nofun
  · rename_i hlong
    obtain ⟨rfl, rfl⟩ := Argument.long.inj hlong
    simp only [hfind]
    rfl
  · contradiction

/-- Sets options one after the other. -/
def Settings.setAll (settings : Settings) (options : List (Flag × String)) :
    Except Stop Settings :=
  options.foldlM (fun settings option => settings.set option.1 option.2) settings

theorem Settings.setAll_append {settings next : Settings} {options : List (Flag × String)}
    (hset : settings.setAll options = .ok next) (others : List (Flag × String)) :
    settings.setAll (options ++ others) = next.setAll others := by
  rw [setAll, List.foldlM_append]
  exact congrArg (· >>= fun settings => settings.setAll others) hset

theorem readArguments_options {form : Form} {options : List (Flag × String)}
    (hflags : ∀ option ∈ options, option.1 ∈ form.flags) (settings : Settings) :
    readArguments form .nothing settings (options.map optionText) = settings.setAll options := by
  induction options generalizing settings with
  | nil => rfl
  | cons option rest ih =>
      obtain ⟨hoption, hrest⟩ := List.forall_mem_cons.mp hflags
      rw [List.map_cons, readArguments_cons hoption, Settings.setAll, List.foldlM_cons]
      exact congrArg (settings.set option.1 option.2 >>= ·) (funext (ih hrest))

/-! ### Checks -/

/-- Arguments are read as attributes, each for itself. -/
def ReadAs (raws : List String) (attributes : List (String × Json)) : Prop :=
  List.Forall₂ (fun raw pair => readAttribute raw = .ok pair) raws attributes

theorem ReadAs.setAll_eq {raws : List String} {attributes : List (String × Json)}
    (hraws : ReadAs raws attributes) (settings : Settings) :
    settings.setAll (raws.map (Flag.attr, ·)) =
      .ok { settings with attributes := settings.attributes ++ attributes } := by
  induction hraws generalizing settings with
  | nil =>
      rw [List.append_nil]
      rfl
  | @cons raw pair rest later hraw hrest ih =>
      have hset : settings.set .attr raw =
          .ok { settings with attributes := settings.attributes ++ [pair] } := by
        simp only [Settings.set, hraw]
        rfl
      rw [List.map_cons, Settings.setAll, List.foldlM_cons, hset]
      show Settings.setAll _ (rest.map (Flag.attr, ·)) = _
      rw [ih, List.append_assoc, List.singleton_append]

/-- The options of a check. -/
def checkOptions (fixture : Option String) (actor : Uuid) (action subject : String)
    (raws : List String) (field : Option String) : List (Flag × String) :=
  fixture.toList.map (Flag.fixture, ·) ++
    [(Flag.actor, actor.text), (Flag.action, action), (Flag.subject, subject)] ++
    raws.map (Flag.attr, ·) ++ field.toList.map (Flag.field, ·)

theorem setAll_checkOptions {fixture : Option String} {raws : List String}
    {attributes : List (String × Json)} (hpath : ∀ path ∈ fixture, path.isEmpty = false)
    (hraws : ReadAs raws attributes) (actor : Uuid) (action subject : String)
    (field : Option String) :
    Settings.empty.setAll (checkOptions fixture actor action subject raws field) =
      .ok ⟨fixture, some actor, some action, some subject, attributes, field, none⟩ := by
  -- The options are set in four portions, each of which changes fields of its own.
  have hfixture : Settings.empty.setAll (fixture.toList.map (Flag.fixture, ·)) =
      .ok { Settings.empty with fixture } := by
    cases fixture with
    | none => rfl
    | some path =>
        have hread : Settings.readPath path = .ok path := if_neg (by simp [hpath path rfl])
        have hset : Settings.empty.set .fixture path =
            .ok { Settings.empty with fixture := some path } := by
          simp only [Settings.set, hread]
          rfl
        exact congrArg (· >>= pure) hset
  have hrequest : Settings.setAll { Settings.empty with fixture }
      [(.actor, actor.text), (.action, action), (.subject, subject)] =
        .ok ⟨fixture, some actor, some action, some subject, [], none, none⟩ := by
    simp only [Settings.setAll, List.foldlM_cons, Settings.set, Uuid.parse?_text]
    rfl
  have hfield : Settings.setAll
      ⟨fixture, some actor, some action, some subject, attributes, none, none⟩
      (field.toList.map (Flag.field, ·)) =
        .ok ⟨fixture, some actor, some action, some subject, attributes, field, none⟩ := by
    cases field <;> rfl
  have hasked := (Settings.setAll_append hfixture _).trans hrequest
  have hattributes := (Settings.setAll_append hasked _).trans (hraws.setAll_eq _)
  exact (Settings.setAll_append hattributes _).trans hfield

/-- **Every check can be asked for**, whatever its actor, action, subject and field, with all
attributes that can be read. -/
theorem ofArguments_check {fixture : Option String} {raws : List String}
    {attributes : List (String × Json)} (hpath : ∀ path ∈ fixture, path.isEmpty = false)
    (hraws : ReadAs raws attributes) (actor : Uuid) (action subject : String)
    (field : Option String) :
    Invocation.ofArguments
        ("check" :: (checkOptions fixture actor action subject raws field).map optionText) =
      .ok (.check fixture actor action subject attributes field) := by
  -- A check knows all flags but the one for settings, which is not among these.
  have hflags : ∀ option ∈ checkOptions fixture actor action subject raws field,
      option.1 ∈ [Flag.fixture, .actor, .action, .subject, .attr, .field] := by
    intro option _
    cases option.1 <;> decide
  simp only [Invocation.ofArguments]
  rw [readArguments_options hflags, setAll_checkOptions hpath hraws]
  rfl

end Command

/-! ## The answers -/

/-- A resolved policy is one for the actor. -/
theorem Authorizer.actor_of_resolve {authorizer : Authorizer} {actor : Actor} {policy : Policy}
    (hresolve : (authorizer.resolve actor).result = .ok policy) :
    policy.actor = some (.ofActor actor) := by
  obtain ⟨roles, merged, _, rfl⟩ := result_resolve_eq_ok hresolve
  rw [Policy.actor_compile]

namespace Command

/-- A query in nobody's name, about a resource with attributes that are given one by one. -/
def query (action subject : String) (attributes : List (String × Json)) (field : Option String) :
    Query :=
  ⟨.ofName action, .ofName subject, ⟨none, Dict.ofList attributes, field⟩⟩

variable {authorizer : Authorizer} {id : Uuid} {action subject : String}
  {attributes : List (String × Json)} {field : Option String}

/-- An actor may do what the policy lets it do that the library resolves for it. -/
theorem result_permits :
    (permits authorizer id (.ofName action) (.ofName subject) attributes field).result =
      (authorizer.resolveById id).result.map fun policy =>
        (policy.can (query action subject attributes field)).value := by
  unfold permits Authorizer.resolveById
  rw [Outcome.result_bind, Outcome.result_bind]
  cases (authorizer.store.actor id).result with
  | error error => rfl
  | ok found =>
      cases found with
      | none => rfl
      | some actor =>
          simp only
          rw [Outcome.result_bind]
          cases hresolve : (authorizer.resolve actor).result with
          | error error => rfl
          | ok policy =>
              -- The command asks in the name of the actor, which is the policy's own actor.
              have hactor := Authorizer.actor_of_resolve hresolve
              have hsame : policy.can ((query action subject attributes field).madeBy
                  (.ofActor actor)) = policy.can (query action subject attributes field) :=
                Policy.can_madeBy_eq rfl hactor rfl
              exact congrArg (fun answer => Except.ok answer.value) hsame

variable {world : World} {settings : String → Option String} {arguments : List String}
  {fixture : Option String} {config : Config} {store : Store}

/-- The line for an answer. -/
def answerLine (allowed : Bool) : String := if allowed then "allow\n" else "deny\n"

theorem answerLine_eq_allow_iff {allowed : Bool} :
    answerLine allowed = "allow\n" ↔ allowed = true := by
  cases allowed <;> decide

theorem answerLine_eq_deny_iff {allowed : Bool} :
    answerLine allowed = "deny\n" ↔ allowed = false := by
  cases allowed <;> decide

theorem output_check (hstore : openStore world config fixture = .ok store) :
    (Invocation.check fixture id action subject attributes field).output world config =
      ((Authorizer.resolveById ⟨store, config.strictLevels⟩ id).result.map fun policy =>
        answerLine (policy.can (query action subject attributes field)).value).mapError
          Failure.error := by
  simp only [Invocation.output, hstore]
  show (settled (permits ⟨store, config.strictLevels⟩ id (.ofName action) (.ofName subject)
    attributes field) >>= _) = _
  rw [settled, result_permits]
  cases (Authorizer.resolveById ⟨store, config.strictLevels⟩ id).result <;> rfl

theorem openStore_of_ofText {path text : String} {records : Fixture}
    (hfile : world.file path = .ok text) (hread : Fixture.decoder.ofText text = .ok records) :
    openStore world config (some path) = .ok (Directory.ofFixture records).store := by
  rw [openStore, readFixture, hfile]
  simp only [hread]
  rfl

/-- With its settings in order, the command ends as the library answers. -/
theorem run_check (hsettings : world.settings? = some settings)
    (hconfig : Config.ofSettings settings = .ok config)
    (hstore : openStore world config fixture = .ok store)
    (harguments : Invocation.ofArguments arguments =
      .ok (.check fixture id action subject attributes field)) :
    run world arguments =
      match (Authorizer.resolveById ⟨store, config.strictLevels⟩ id).result with
      | .ok policy =>
          .printed (answerLine (policy.can (query action subject attributes field)).value)
      | .error error => .failed (.error error) := by
  rw [run, hsettings]
  simp only [runWith, harguments, hconfig, Except.mapError, output_check hstore]
  cases (Authorizer.resolveById ⟨store, config.strictLevels⟩ id).result <;> rfl

/-- **The command answers like the library.**  Where the settings are in order and the store
can be opened, `check` prints `allow` exactly when the actor resolves to a policy that allows
the query, and `deny` exactly when it resolves to one that does not, as it does without a
record.  It fails exactly when the resolution fails, and with the same error.  Of the values
that are given for an attribute, the query has the last. -/
theorem check_answers_like_library (hsettings : world.settings? = some settings)
    (hconfig : Config.ofSettings settings = .ok config)
    (hstore : openStore world config fixture = .ok store)
    (harguments : Invocation.ofArguments arguments =
      .ok (.check fixture id action subject attributes field)) :
    (run world arguments = .printed "allow\n" ↔
      ∃ policy, (Authorizer.resolveById ⟨store, config.strictLevels⟩ id).result = .ok policy ∧
        (policy.can (query action subject attributes field)).value = true) ∧
    (run world arguments = .printed "deny\n" ↔
      ∃ policy, (Authorizer.resolveById ⟨store, config.strictLevels⟩ id).result = .ok policy ∧
        (policy.can (query action subject attributes field)).value = false) ∧
    (∀ error, run world arguments = .failed (.error error) ↔
      (Authorizer.resolveById ⟨store, config.strictLevels⟩ id).result = .error error) ∧
    ∀ key, (query action subject attributes field).context.attributes.get? key =
      attributes.reverse.lookup key := by
  -- The one line of the command tells the three outcomes apart.
  rw [run_check hsettings hconfig hstore harguments]
  have hlast : ∀ key, (query action subject attributes field).context.attributes.get? key =
      attributes.reverse.lookup key := Dict.get?_ofList attributes
  cases (Authorizer.resolveById ⟨store, config.strictLevels⟩ id).result with
  | error error => exact ⟨by simp, by simp, by simp, hlast⟩
  | ok policy =>
      refine ⟨?_, ?_, by simp, hlast⟩
      · simp [answerLine_eq_allow_iff]
      · simp [answerLine_eq_deny_iff]

end Command

/-! ### The lead at the command line -/

namespace Sample

/-- The records of the lead, as a file holds them. -/
def records : Fixture := ⟨[lead], [], [actor]⟩

/-- Surroundings without settings, in which there is a file of these records. -/
def office : Command.World where
  environment _ := none
  file path :=
    if path = "records.json" then .ok records.toJson.text
    else .error "No such file or directory (os error 2)"
  present _ := false
  connect _ _ _ := .refused
  now := "2024-01-01T00:00:00Z"

/-- Two values for the domain of a task, the second that of the role. -/
def domains : List (String × Json) := [("domain", .str "globex"), ("domain", .str "acme")]

/-- They are given as two attributes. -/
theorem readAs_domains : Command.ReadAs ["domain=globex", "domain=acme"] domains := by
  have hno : ∀ value ∈ ["globex", "acme"], Json.parse? value = none := by
    intro value hvalue
    apply Option.isNone_iff_eq_none.mp
    revert value
    decide +kernel
  refine .cons ?_ (.cons ?_ .nil)
  · exact Command.readAttribute_of_text (by decide) (by decide) (by decide +kernel) rfl
      (hno "globex" (by simp))
  · exact Command.readAttribute_of_text (by decide) (by decide) (by decide +kernel) rfl
      (hno "acme" (by simp))

/-- The question whether the actor may manage a task for which both are given. -/
def question : List String :=
  "check" :: (Command.checkOptions (some "records.json") actor.id "manage" "Task"
    ["domain=globex", "domain=acme"] none).map Command.optionText

theorem ofText_records : Fixture.decoder.ofText records.toJson.text = .ok records := by
  have htrees : ∀ role ∈ records.roles, role.tree.OfValue := by
    intro role hrole
    obtain rfl := List.mem_singleton.mp hrole
    exact ⟨_, ordered_leadTree, rfl⟩
  have hfree : ∀ role ∈ records.roles, role.tree.toJson.NumberFree 2 := by
    intro role hrole
    obtain rfl := List.mem_singleton.mp hrole
    exact numberFree_leadTree
  exact Fixture.ofText_text_toJson htrees hfree (by decide)

theorem openStore_records :
    Command.openStore office .standard (some "records.json") = .ok directory.store := by
  have hfile : office.file "records.json" = .ok records.toJson.text := by
    simp only [office, if_true]
  exact Command.openStore_of_ofText hfile ofText_records

end Sample

/-- The actor is allowed to manage the task, as the last value for its domain is that of the
role. -/
theorem lead_is_allowed_at_command_line :
    Command.run Sample.office Sample.question = .printed "allow\n" ∧
      ∃ policy, (Authorizer.resolveById ⟨Sample.directory.store, false⟩
          Sample.actor.id).result = .ok policy ∧
        (policy.can (Command.query "manage" "Task" Sample.domains none)).value = true := by
  have hsettings : Sample.office.settings? = some fun _ => none := rfl
  have hconfig : Config.ofSettings (fun _ => none) = .ok .standard := rfl
  have harguments : Command.Invocation.ofArguments Sample.question =
      .ok (.check (some "records.json") Sample.actor.id "manage" "Task" Sample.domains none) :=
    Command.ofArguments_check (by simp) Sample.readAs_domains _ _ _ _
  obtain ⟨hallow, _⟩ := Command.check_answers_like_library hsettings hconfig
    Sample.openStore_records harguments
  obtain ⟨policy, hresolve, hcan⟩ := Authorizer.permits_eq_true_iff.mp
    (show Authorizer.permits ⟨Sample.directory.store, false⟩ Sample.actor
      (Command.query "manage" "Task" Sample.domains none) = true by decide +kernel)
  have hfound : (Authorizer.resolveById ⟨Sample.directory.store, false⟩
      Sample.actor.id).result = .ok policy := hresolve
  exact ⟨hallow.mpr ⟨policy, hfound, hcan⟩, policy, hfound, hcan⟩

end Entitlement
