import TopicGateway.Command.Run
import TopicGateway.Proofs.Config.DefaultsFile

/-! Defaults that are printed and taken up again. What the program prints of its template defaults is
JSON and the file that gives defaults is YAML, but the one is a text of the other, so a gateway that is
pointed to the stored text runs with the same defaults. -/
namespace TopicGateway

open Broker (Access Connector Topology)
open Config (Environment Files Settings)
open Message (Defaults)

namespace Config

def Environment.unset (env : Environment) (name : String) : Environment :=
  fun other => if other = name then none else env other

theorem get_unset (env : Environment) {name other : String} (different : other ≠ name) :
    (env.unset name).get other = env.get other := by
  simp [Environment.get, Environment.unset, different]

/-- The file of defaults has a say in the defaults only. -/
theorem resolve_of_defaults {env : Environment} {files : Files} {d : Defaults}
    (given : resolveDefaults env files = .ok d) :
    resolve env files =
      (resolve (env.unset defaultsVariable) files).map fun s => { s with defaults := d } := by
  have kept {name : String} (different : name ≠ defaultsVariable) := get_unset env different
  have broker : resolveBroker (env.unset defaultsVariable) = resolveBroker env := by
    rw [resolveBroker, resolveBroker, kept (by decide), kept (by decide), kept (by decide),
      kept (by decide), kept (by decide)]
  have bind : resolveBind (env.unset defaultsVariable) = resolveBind env := by
    rw [resolveBind, resolveBind, kept (by decide), kept (by decide)]
  have policy : resolvePolicy (env.unset defaultsVariable) = resolvePolicy env := by
    rw [resolvePolicy, resolvePolicy, kept (by decide)]
  have absent : (env.unset defaultsVariable).get defaultsVariable = none := by
    simp [Environment.get, Environment.unset, Text.nonBlank]
  have standard : resolveDefaults (env.unset defaultsVariable) files = .ok .builtIn := by
    rw [resolveDefaults, absent, orStandard]
  rw [resolve, resolve, broker, bind, policy, standard, given]
  cases resolveBroker env with
  | error fault => rfl
  | ok access =>
  cases resolveBind env with
  | error fault => rfl
  | ok address =>
  cases resolvePolicy env with
  | error fault => rfl
  | ok policy =>
    simp only [Except.map, Bind.bind, Except.bind, Settings.validate]
    cases unusable? access <;> rfl

end Config

namespace Command

theorem settingsLines_eq (s : Settings) : ∃ before,
    settingsLines s = before ++ ["template_defaults=" ++ s.defaults.json.text] :=
  ⟨(settingsLines s).dropLast, rfl⟩

/-- The defaults are printed as one line of JSON, the last one. A file with that text, with or without
the end of the line, gives these defaults again: the configuration resolves just as it does without the
file, but for the defaults, which are the ones that were printed. -/
theorem printed_defaults_resolve_again {d : Defaults} (finite : d.Finite) (visible : d.Visible) :
    (∀ {σ ρ : Type} (connect : Access → Topology → Connector σ ρ) (arguments : List String)
      (env : Environment) (files : Files) (s : Settings) (stamp : Message.Stamp) (sentAt : Int)
      (broker : σ), Arguments.parse arguments = .ok .config → Config.resolve env files = .ok s →
      s.defaults = d → ∃ before, run connect arguments env files stamp sentAt broker =
        (.report ⟨before ++ ["template_defaults=" ++ d.json.text], none⟩, broker)) ∧
    Json.VisibleText d.json.text ∧
    ∀ (env : Environment) (files : Files) (path ending : String),
      (env.get Config.defaultsVariable).map Text.trim = some path →
      files path = .ok (Text.Utf8.encode (d.json.text ++ ending)) → (ending = "" ∨ ending = "\n") →
      Config.resolveDefaults env files = .ok d ∧
      Config.resolve env files = (Config.resolve (env.unset Config.defaultsVariable) files).map
        fun s => { s with defaults := d } := by
  refine ⟨fun connect arguments env files s stamp sentAt broker asked resolved same => ?_, ?_,
    fun env files path ending pointed stored ends => ?_⟩
  · obtain ⟨before, lines⟩ := settingsLines_eq s
    refine ⟨before, ?_⟩
    rw [run, asked, resolved]
    simp only [serve, lines, same]
  · have legible : d.json.Legible := Message.Defaults.legible_members visible
    rw [Json.text_eq legible, Json.VisibleText, String.toList_ofList]
    exact Json.visible_chars d.json legible
  · obtain ⟨value, set, rfl⟩ := Option.map_eq_some_iff.1 pointed
    have given : Config.resolveDefaults env files = .ok d := by
      rw [Config.resolveDefaults, set, Config.orStandard]
      simp only [Config.load_json finite visible ends stored]
    exact ⟨given, Config.resolve_of_defaults given⟩

/-- Defaults that are easily taken for something else: a negative zero, the least and the largest
doubles, an empty text, and texts that look like numbers, collections and comments. -/
def deceptive : Defaults where
  execution := ⟨.finite ⟨true, .zero⟩, .ofDecimal false 1 16⟩
  risk := ⟨.ofDecimal false 5 (-324), .ofDecimal true 17976931348623157 292⟩
  strategy := ⟨"null", ["", " 1e3", "[a, \x7bb: \"c\\\"\x7d] # d"]⟩
  frequency := "~"
  fileType := "---"

theorem deceptive_defaults_resolve_again :
    let env : Environment := fun name =>
      if name = Config.defaultsVariable then some " defaults.json " else none
    let files : Files := fun path =>
      if path = "defaults.json" then .ok (Text.Utf8.encode (deceptive.json.text ++ "\n"))
      else .error .missing
    deceptive.Finite ∧ deceptive.Visible ∧
    Config.resolve env files = .ok { Settings.standard with defaults := deceptive } ∧
    ∀ {σ ρ : Type} (connect : Access → Topology → Connector σ ρ) (stamp : Message.Stamp)
      (broker : σ), ∃ before, run connect ["config"] env files stamp 0 broker =
        (.report ⟨before ++ ["template_defaults=" ++ deceptive.json.text], none⟩, broker) := by
  intro env files
  have finite : deceptive.Finite := by constructor <;> decide +kernel
  have visible : deceptive.Visible := by constructor <;> decide
  obtain ⟨printed, _, again⟩ := printed_defaults_resolve_again finite visible
  have stored : files "defaults.json" =
      .ok (Text.Utf8.encode (deceptive.json.text ++ "\n")) := if_pos rfl
  have pointed : (env.get Config.defaultsVariable).map Text.trim = some "defaults.json" := by decide
  obtain ⟨_, resolved⟩ := again env files "defaults.json" "\n" pointed stored (.inr rfl)
  have standard : Config.resolve (env.unset Config.defaultsVariable) files = .ok .standard := by
    decide +kernel
  have whole : Config.resolve env files = .ok { Settings.standard with defaults := deceptive } := by
    rw [resolved, standard]
    rfl
  exact ⟨finite, visible, whole, fun connect stamp broker =>
    printed connect ["config"] env files _ stamp 0 broker rfl whole rfl⟩

end Command

end TopicGateway
