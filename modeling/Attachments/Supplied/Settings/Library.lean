import Attachments.Supplied.Settings.Sources

/-!
Contract: the library that loads settings, as it is known.

Owns:
- the operations of the library, put together;
- the names of its options.

Does not own: what the program relies on.
-/

namespace Attachments

namespace SettingsOptions

/-- The options that a search of settings looks at, whatever else is given. All others count beside
one of these only. -/
def names : List String :=
  ["__pydantic_self__", "_build_sources", "_case_sensitive", "_cli_parse_args", "_env_file",
    "_env_file_depth", "_env_file_encoding", "_env_ignore_empty", "_env_nested_max_split",
    "_env_parse_none_str", "_env_prefix", "_env_prefix_target", "_secrets_dir"]

end SettingsOptions

namespace SettingsLibrary

def readWholeText : GivenValue → Except IssueKind String
  | .whole (.text text) => .ok text
  | .whole _ => .error .notText
  | .torn _ => .error .tornText

/-- The library as it is known. -/
def standard : SettingsLibrary where
  isOption name := name ∈ SettingsOptions.names
  bindings file := SettingsFile.bindings (Text.points file)
  find group origins :=
    (group.sources origins.named origins.environment origins.file).map SettingsSources.given?
  readBoolean := SettingsBoolean.readGiven
  readText := readWholeText

end SettingsLibrary

end Attachments
