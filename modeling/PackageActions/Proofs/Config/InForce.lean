import PackageActions.Command.Run
import PackageActions.Proofs.Config.Environment
import PackageActions.Proofs.Config.Sections

/-!
# Configurations in force

The repositories of a configuration come from a table of its file, and nothing that happens to the
configuration before a command is carried out changes them. So under whatever configuration a command is
carried out, the repositories are listed by increasing name (`Invocation.sorted_repositories`).
-/

namespace PackageActions

open Dictionary

namespace Config

theorem ListsRepositories.sorted {table : Toml.Table} {repositories : Dictionary RepositoryConfig}
    (htable : SortedAll Toml.Sorted table) (h : ListsRepositories table repositories) :
    Sorted repositories := by
  obtain ⟨-, rfl⟩ | ⟨entries, hentries, hread⟩ := h
  · exact sorted_nil
  · have hsorted := Toml.sorted_table_iff.1 (htable.of_get? hentries)
    rw [Sorted, hread.keys_eq]
    exact hsorted.sorted

theorem sorted_repositories_of_ofTable {table : Toml.Table} {config : Config}
    (htable : SortedAll Toml.Sorted table) (h : ofTable table = .ok config) :
    Sorted config.repositories := by
  obtain ⟨-, -, -, hlists⟩ := (decision_ok_iff htable).1 ((ofTable_eq_iff htable.sorted).1 h)
  exact hlists.sorted htable

theorem sorted_repositories_of_ofToml {text : String} {config : Config} (h : ofToml text = .ok config) :
    Sorted config.repositories := by
  unfold ofToml at h
  split at h
  · cases h
  · rename_i table htable
    exact sorted_repositories_of_ofTable (Toml.sortedAll_of_parse? htable) h

theorem sorted_repositories_of_ofFile {files : Files} {path : Bytes} {config : Config}
    (h : ofFile files path = .ok config) : Sorted config.repositories := by
  unfold ofFile at h
  split at h
  · split at h <;> cases h
  · split at h
    · exact sorted_repositories_of_ofToml h
    · cases h

theorem sorted_repositories_of_load {files : Files} {env : Environment} {path : Option Bytes}
    {config : Config} (h : load files env path = .ok config) : Sorted config.repositories := by
  cases path with
  | some path => exact sorted_repositories_of_ofFile h
  | none =>
      obtain ⟨path, -, h⟩ := Except.bind_eq_ok_iff.1 h
      split at h
      · exact sorted_repositories_of_ofFile h
      · obtain rfl := Except.ok.inj h
        exact sorted_nil

end Config

theorem Command.repositories_adjust (config : Config) (command : Command) :
    (command.adjust config).repositories = config.repositories := by
  cases command <;> rfl

/-- The configuration under which a command is carried out lists its repositories by increasing name. -/
theorem Invocation.sorted_repositories {files : Files} {env : Environment} {invocation : Invocation}
    {config : Config} (h : invocation.settings files env = .ok config) : Sorted config.repositories := by
  obtain ⟨loaded, hload, h⟩ := Except.bind_eq_ok_iff.1 h
  rw [Config.merge_eq] at h
  cases hfailure : env.failure? with
  | some e =>
      rw [hfailure] at h
      cases h
  | none =>
      rw [hfailure] at h
      obtain rfl := Except.ok.inj h
      rw [Command.repositories_adjust]
      show Sorted loaded.repositories
      exact Config.sorted_repositories_of_load hload

end PackageActions
