import TopicGateway.Config.Resolve
import TopicGateway.Proofs.Message.Payload
import TopicGateway.Proofs.Yaml.Records

/-! Template defaults from the JSON text that they are written as. It is a YAML text with every setting,
so the file that holds it gives these defaults, whatever is built in. -/
namespace TopicGateway

open Json (VisibleText)
open Message (Defaults)

namespace Message.Defaults

structure Visible (d : Defaults) : Prop where
  version : VisibleText d.strategy.version
  tags : ∀ tag ∈ d.strategy.tags, VisibleText tag
  frequency : VisibleText d.frequency
  fileType : VisibleText d.fileType

theorem legible_floatJson (x : Binary64) : (floatJson x).Legible := by
  cases x <;> trivial

theorem legible_strings {texts : List String} (visible : ∀ s ∈ texts, VisibleText s) :
    Json.LegibleItems (texts.map .string) := by
  induction texts with
  | nil => trivial
  | cons s texts ih =>
    obtain ⟨first, later⟩ := List.forall_mem_cons.1 visible
    exact ⟨first, ih later⟩

def members (d : Defaults) : List (String × Json) := [
  ("execution_settings", executionJson d.execution),
  ("risk_settings", riskJson d.risk),
  ("strategy", .object [
    ("version", .string d.strategy.version), ("tags", stringsJson d.strategy.tags)]),
  ("data", .object [("frequency", .string d.frequency)]),
  ("file", .object [("file_type", .string d.fileType)])]

theorem legible_members {d : Defaults} (visible : d.Visible) : Json.LegibleMembers d.members := by
  refine ⟨by decide, ?_, by decide, ?_, by decide, ?_, by decide, ?_, by decide, ?_, trivial⟩
  · exact ⟨by decide, legible_floatJson _, by decide, legible_floatJson _, trivial⟩
  · exact ⟨by decide, legible_floatJson _, by decide, legible_floatJson _, trivial⟩
  · exact ⟨by decide, visible.version, by decide, legible_strings visible.tags, trivial⟩
  · exact ⟨by decide, visible.frequency, trivial⟩
  · exact ⟨by decide, visible.fileType, trivial⟩

end Message.Defaults

namespace Config

open Yaml (Fills ReadsAs)

open DefaultsFile (readSetting)

variable (start : Defaults)

theorem reads_float {x : Binary64} (finite : x.Finite) (put : Binary64 → Defaults → Defaults) :
    ReadsAs (readSetting (.float put) start) (Message.Defaults.floatJson x) (put x start) := by
  obtain ⟨r, rfl⟩ := finite
  exact (Yaml.reads_real r).map fun x => put x start

theorem reads_string (s : String) (put : String → Defaults → Defaults) :
    ReadsAs (readSetting (.string put) start) (.string s) (put s start) :=
  (Yaml.reads_string s).map fun s => put s start

theorem reads_strings (texts : List String) (put : List String → Defaults → Defaults) :
    ReadsAs (readSetting (.strings put) start) (Message.Defaults.stringsJson texts)
      (put texts start) :=
  (Yaml.reads_strings texts).map fun texts => put texts start

variable {start} {changed filled : Defaults} {given : List String}
  {members inner : List (String × Json)}

/-- A member with a setting of the section. -/
theorem fills_setting {s : Defaults.Section} {name : String} {setting : Defaults.Setting} {j : Json}
    (known : s.settings.find? (·.1 = name) = some (name, setting))
    (new : given.contains name = false) (reads : ReadsAs (readSetting setting start) j changed)
    (others : Fills (DefaultsFile.sectionRecord s) (name :: given) changed members filled) :
    Fills (DefaultsFile.sectionRecord s) given start ((name, j) :: members) filled := by
  have found : (DefaultsFile.sectionRecord s).fields.find? (·.name = name) =
      some ⟨name, readSetting setting⟩ := by
    rw [DefaultsFile.sectionRecord, List.find?_map]
    exact congrArg _ known
  exact .next found new reads others

/-- A member with a section. -/
theorem fills_section {s : Defaults.Section}
    (known : Defaults.sections.find? (·.name = s.name) = some s)
    (new : given.contains s.name = false)
    (settings : Fills (DefaultsFile.sectionRecord s) [] start inner changed)
    (others : Fills DefaultsFile.record (s.name :: given) changed members filled) :
    Fills DefaultsFile.record given start ((s.name, .object inner) :: members) filled := by
  have found : DefaultsFile.record.fields.find? (·.name = s.name) =
      some ⟨s.name, (DefaultsFile.sectionRecord s).read⟩ := by
    rw [DefaultsFile.record, List.find?_map]
    exact congrArg _ known
  exact .next found new settings.reads others

variable (start)

/-- The members of the written defaults fill the record of defaults, whatever this held before. -/
theorem fills_members {d : Defaults} (finite : d.Finite) :
    Fills DefaultsFile.record [] start d.members d := by
  refine fills_section (s := Defaults.sections[0]) rfl rfl
    (fills_setting rfl rfl (reads_float _ finite.slippage _)
      (fills_setting rfl rfl (reads_float _ finite.commission _) (.done ..))) ?_
  refine fills_section (s := Defaults.sections[1]) rfl rfl
    (fills_setting rfl rfl (reads_float _ finite.maxPositionSize _)
      (fills_setting rfl rfl (reads_float _ finite.maxDrawdown _) (.done ..))) ?_
  refine fills_section (s := Defaults.sections[2]) rfl rfl
    (fills_setting rfl rfl (reads_string _ d.strategy.version _)
      (fills_setting rfl rfl (reads_strings _ d.strategy.tags _) (.done ..))) ?_
  refine fills_section (s := Defaults.sections[3]) rfl rfl
    (fills_setting rfl rfl (reads_string _ d.frequency _) (.done ..)) ?_
  refine fills_section (s := Defaults.sections[4]) rfl rfl
    (fills_setting rfl rfl (reads_string _ d.fileType _) (.done ..)) ?_
  exact .done ..

/-- The written defaults, with or without a line break at the end, are the text of a file that gives
them. -/
theorem ofText_json {d : Defaults} (finite : d.Finite) (visible : d.Visible) {ending : String}
    (ends : ending = "" ∨ ending = "\n") : DefaultsFile.ofText (d.json.text ++ ending) = .ok d := by
  have legible : d.json.Legible := Message.Defaults.legible_members visible
  have text : d.json.text ++ ending =
      String.ofList ((Json.object d.members).chars ++ ending.toList) := by
    rw [Json.text_eq legible, String.ofList_append, String.ofList_toList]
    rfl
  have seen : Text.blank (d.json.text ++ ending) = false := by
    refine Text.blank_eq_false_iff.2 ⟨'\x7b', ?_, by decide⟩
    rw [text, String.toList_ofList, Json.chars]
    exact List.mem_cons_self ..
  have ends : ending.toList = [] ∨ ending.toList = ['\n'] := by
    rcases ends with rfl | rfl
    · exact .inl rfl
    · exact .inr rfl
  rw [DefaultsFile.ofText, seen, if_neg Bool.false_ne_true, text]
  exact (fills_members .builtIn finite).readWhole (Message.Defaults.legible_members visible) ends

theorem load_json {d : Defaults} (finite : d.Finite) (visible : d.Visible) {files : Files}
    {path ending : String} (ends : ending = "" ∨ ending = "\n")
    (stored : files path = .ok (Text.Utf8.encode (d.json.text ++ ending))) :
    DefaultsFile.load files path = .ok d := by
  have text : files.text path = .ok (d.json.text ++ ending) := by
    rw [Files.text, stored]
    simp only [Text.Utf8.decode?_encode]
  rw [DefaultsFile.load, text]
  simp only [ofText_json finite visible ends]

end Config

end TopicGateway
