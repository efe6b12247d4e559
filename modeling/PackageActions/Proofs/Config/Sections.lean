import Mathlib.Control.Monad.Basic
import PackageActions.Config.OfToml
import PackageActions.Proofs.Config.Reading

/-!
# The stages of reading a configuration file

A configuration file that is a TOML document is looked through in three stages, and `Decision` says what
each of them decides: a section that is unknown, a section on fetches that is not in order, and the rest.
A stage comes into play only when the stages before it have nothing to object to, and a stage that objects
decides the error whatever else the document holds (`ofTable_eq_iff`).

The section on fetches is taken out before the rest is read, which makes no difference to the rest
(`decode_erase_fetch`), and the options in it are put back afterwards. So a configuration is put together
from what each section gives by itself (`decision_ok_iff`).
-/

namespace PackageActions

open Decoding Dictionary

namespace Config

/-! ## Stages -/

/-- The names of sections. -/
def IsSection (key : String) : Prop := key = "general" ∨ key = "fetch" ∨ key = "repositories"

/-- Every key of a table is the name of a section. -/
def OnlySections (table : Toml.Table) : Prop := ∀ key ∈ keys table, IsSection key

/-- The options of a fetch that a table gives: those of the section on fetches, or none are on. -/
inductive GivesFetch (table : Toml.Table) : FetchOptions → Prop where
  | absent (habsent : get? table "fetch" = none) : GivesFetch table ⟨false, false⟩
  | given {entries : Toml.Table} {fetch : FetchOptions}
      (hentries : get? table "fetch" = some (.table entries))
      (hfetch : FetchOptions.ofMapping (Toml.toNamedArguments entries) = .ok fetch) :
      GivesFetch table fetch

/-- What the first stage that has something to decide makes of a table. -/
inductive Decision (table : Toml.Table) : Except Error Config → Prop where
  /-- The least key that is no section is reported. -/
  | unknownSection {key : String} (hkey : key ∈ keys table) (hunknown : ¬ IsSection key)
      (hleast : ∀ other ∈ keys table, ¬ IsSection other → key ≤ other) :
      Decision table (.error (.config (.invalid ("unknown section [" ++ key ++ "]"))))
  /-- The section on fetches is no table. -/
  | fetchNoTable {v : Toml} (hsections : OnlySections table) (hv : get? table "fetch" = some v)
      (hnoTable : ∀ entries, v ≠ .table entries) :
      Decision table (.error (.config (.invalidValue "fetch" v.typeName)))
  /-- The section on fetches is refused as named arguments are. -/
  | fetchRefused {entries : Toml.Table} {e : ActionError} (hsections : OnlySections table)
      (hentries : get? table "fetch" = some (.table entries))
      (he : FetchOptions.ofMapping (Toml.toNamedArguments entries) = .error e) :
      Decision table (.error (.action e))
  /-- The rest cannot be read. -/
  | unreadable {fetch : FetchOptions} {e : DecodeError} (hsections : OnlySections table)
      (hfetch : GivesFetch table fetch) (he : decode (Toml.table (erase table "fetch")) = .error e) :
      Decision table (.error (.config (.unreadable (Toml.decodeMessage e))))
  /-- Every stage is content. -/
  | accepted {fetch : FetchOptions} {rest : Config} (hsections : OnlySections table)
      (hfetch : GivesFetch table fetch) (hrest : decode (Toml.table (erase table "fetch")) = .ok rest) :
      Decision table (.ok { rest with fetch })

/-! ## Unknown sections -/

theorem not_contains_sections_iff {key : String} :
    (!sections.contains key) = true ↔ ¬ IsSection key := by
  simp [sections, IsSection]

theorem find?_unknown_eq_none_iff {table : Toml.Table} :
    ((keys table).find? fun key => !sections.contains key) = none ↔ OnlySections table := by
  simp only [List.find?_eq_none, not_contains_sections_iff, not_not, OnlySections]

theorem find?_unknown_eq_some_iff {table : Toml.Table} (hsorted : Sorted table) {key : String} :
    ((keys table).find? fun key => !sections.contains key) = some key ↔
      key ∈ keys table ∧ ¬ IsSection key ∧
        ∀ other ∈ keys table, ¬ IsSection other → key ≤ other := by
  simp only [find?_keys_eq_some_iff hsorted, not_contains_sections_iff]

/-! ## One stage after the other -/

theorem ofTable_of_unknown {table : Toml.Table} {key : String}
    (h : ((keys table).find? fun key => !sections.contains key) = some key) :
    ofTable table = .error (.config (.invalid ("unknown section [" ++ key ++ "]"))) := by
  rw [ofTable, h]
  rfl

theorem ofTable_of_onlySections {table : Toml.Table} (h : OnlySections table) :
    ofTable table = (do
      let fetch ← fetchOfTable table
      let config ← (decode (Toml.table (erase table "fetch"))).mapError fun e =>
        .config (.unreadable (Toml.decodeMessage e))
      pure { config with fetch }) := by
  rw [ofTable, find?_unknown_eq_none_iff.2 h]

theorem fetchOfTable_eq_ok_iff {table : Toml.Table} {fetch : FetchOptions} :
    fetchOfTable table = .ok fetch ↔ GivesFetch table fetch := by
  constructor
  · intro h
    unfold fetchOfTable at h
    split at h
    · rename_i habsent
      obtain rfl := Except.ok.inj h
      exact .absent habsent
    · rename_i entries hentries
      exact .given hentries (Except.mapError_eq_ok_iff.1 h)
    · cases h
  · intro h
    cases h with
    | absent habsent =>
        rw [fetchOfTable, habsent]
    | given hentries hfetch =>
        rw [fetchOfTable, hentries]
        exact Except.mapError_eq_ok_iff.2 hfetch

/-- What is wrong with a section on fetches is decided before the rest is looked at. -/
theorem decision_of_fetchOfTable_error {table : Toml.Table} {e : Error} (hsections : OnlySections table)
    (h : fetchOfTable table = .error e) : Decision table (.error e) := by
  unfold fetchOfTable at h
  split at h
  · cases h
  · rename_i entries hentries
    obtain ⟨cause, hcause, rfl⟩ := Except.mapError_eq_error_iff.1 h
    exact .fetchRefused hsections hentries hcause
  · rename_i v hv hnoTable
    obtain rfl := Except.error.inj h
    exact .fetchNoTable hsections hnoTable hv

theorem decision_ofTable {table : Toml.Table} (hsorted : Sorted table) :
    Decision table (ofTable table) := by
  cases hfind : (keys table).find? fun key => !sections.contains key with
  | some key =>
      obtain ⟨hkey, hunknown, hleast⟩ := (find?_unknown_eq_some_iff hsorted).1 hfind
      rw [ofTable_of_unknown hfind]
      exact .unknownSection hkey hunknown hleast
  | none =>
      have hsections : OnlySections table := find?_unknown_eq_none_iff.1 hfind
      rw [ofTable_of_onlySections hsections]
      cases hfetch : fetchOfTable table with
      | error e => exact decision_of_fetchOfTable_error hsections hfetch
      | ok fetch =>
          have hgives : GivesFetch table fetch := fetchOfTable_eq_ok_iff.1 hfetch
          cases hrest : decode (Toml.table (erase table "fetch")) with
          | error e => exact .unreadable hsections hgives hrest
          | ok rest => exact .accepted hsections hgives hrest

theorem Decision.ofTable_eq {table : Toml.Table} (hsorted : Sorted table) {r : Except Error Config}
    (h : Decision table r) : ofTable table = r := by
  cases h with
  | unknownSection hkey hunknown hleast =>
      exact ofTable_of_unknown ((find?_unknown_eq_some_iff hsorted).2 ⟨hkey, hunknown, hleast⟩)
  | @fetchNoTable v hsections hv hnoTable =>
      have hfetch : fetchOfTable table = .error (.config (.invalidValue "fetch" v.typeName)) := by
        unfold fetchOfTable
        rw [hv]
        cases v with
        | table entries => exact absurd rfl (hnoTable entries)
        | _ => rfl
      rw [ofTable_of_onlySections hsections, hfetch]
      rfl
  | fetchRefused hsections hentries he =>
      rw [ofTable_of_onlySections hsections, fetchOfTable, hentries]
      simp only [FetchOptions.ofTable, he]
      rfl
  | unreadable hsections hfetch he =>
      rw [ofTable_of_onlySections hsections, fetchOfTable_eq_ok_iff.2 hfetch, he]
      rfl
  | accepted hsections hfetch hrest =>
      rw [ofTable_of_onlySections hsections, fetchOfTable_eq_ok_iff.2 hfetch, hrest]
      rfl

/-- The first stage that has something to decide decides. -/
theorem ofTable_eq_iff {table : Toml.Table} (hsorted : Sorted table) {r : Except Error Config} :
    ofTable table = r ↔ Decision table r := by
  constructor
  · rintro rfl
    exact decision_ofTable hsorted
  · intro h
    exact h.ofTable_eq hsorted

/-! ## The rest -/

theorem decode_table_eq_ofMembers (table : Toml.Table) :
    decode (Toml.table table) = ofMembers table := rfl

/-- Reading a configuration passes over the section on fetches. -/
theorem decode_erase_fetch (table : Toml.Table) :
    decode (Toml.table (erase table "fetch")) = decode (Toml.table table) := by
  rw [decode_table_eq_ofMembers, decode_table_eq_ofMembers, ofMembers, ofMembers,
    checkMembers_erase (by rfl), optional_erase (by decide), optional_erase (by decide)]

/-- The repositories are those of their section, under the same names and with the settings read from its
entries. Without the section there are none. -/
def ListsRepositories (table : Toml.Table) (repositories : Dictionary RepositoryConfig) : Prop :=
  get? table "repositories" = none ∧ repositories = [] ∨
    ∃ entries, get? table "repositories" = some (.table entries) ∧
      ReadAs RepositoryConfig.decode entries repositories

theorem ListsRepositories.mem_keys_iff {table : Toml.Table} {repositories : Dictionary RepositoryConfig}
    (h : ListsRepositories table repositories) {name : String} :
    name ∈ keys repositories ↔
      ∃ entries, get? table "repositories" = some (.table entries) ∧ name ∈ keys entries := by
  obtain ⟨habsent, rfl⟩ | ⟨entries, hentries, hread⟩ := h
  · refine iff_of_false List.not_mem_nil ?_
    rintro ⟨entries, hentries, -⟩
    rw [habsent] at hentries
    cases hentries
  · rw [hread.keys_eq]
    constructor
    · intro hname
      exact ⟨entries, hentries, hname⟩
    · rintro ⟨entries', hentries', hname⟩
      rw [hentries] at hentries'
      cases hentries'
      exact hname

theorem optional_repositories_eq_ok_iff {table : Toml.Table} {repositories : Dictionary RepositoryConfig} :
    optional "repositories" decodeRepositories [] table = .ok repositories ↔
      ListsRepositories table repositories := by
  simp only [optional_eq_ok_iff, ListsRepositories, decodeRepositories, Toml.dictionary_eq_ok_iff]
  refine or_congr_right ⟨?_, ?_⟩
  · rintro ⟨_, hv, entries, rfl, hread⟩
    exact ⟨entries, hv, hread⟩
  · rintro ⟨entries, hv, hread⟩
    exact ⟨_, hv, entries, rfl, hread⟩

/-- How a table has results shown: as its general section says, or plainly. -/
inductive GivesOutput (table : Toml.Table) : OutputFormat → Prop where
  | absent (habsent : get? table "general" = none) : GivesOutput table .plain
  | given {v : Toml} {format : OutputFormat} (hv : get? table "general" = some v)
      (hformat : format.GivenBy v) : GivesOutput table format

/-- The repositories that a table gives: those of their section under the same names, or none. -/
inductive GivesRepositories (table : Toml.Table) : Dictionary RepositoryConfig → Prop where
  | absent (habsent : get? table "repositories" = none) : GivesRepositories table []
  | given {entries : Toml.Table} {repositories : Dictionary RepositoryConfig}
      (hentries : get? table "repositories" = some (.table entries))
      (hread : Pointwise RepositoryConfig.ReadFrom entries repositories) :
      GivesRepositories table repositories

section Read

variable {table : Toml.Table} (hsorted : SortedAll Toml.Sorted table)
include hsorted

theorem optional_general_eq_ok_iff {output : OutputFormat} :
    optional "general" decodeGeneral .plain table = .ok output ↔ GivesOutput table output := by
  rw [optional_eq_ok_iff]
  constructor
  · rintro (⟨habsent, rfl⟩ | ⟨v, hv, hread⟩)
    · exact .absent habsent
    · exact .given hv ((decodeGeneral_eq_ok_iff (hsorted.of_get? hv)).1 hread)
  · rintro (habsent | ⟨hv, hformat⟩)
    · exact .inl ⟨habsent, rfl⟩
    · exact .inr ⟨_, hv, (decodeGeneral_eq_ok_iff (hsorted.of_get? hv)).2 hformat⟩

theorem listsRepositories_iff {repositories : Dictionary RepositoryConfig} :
    ListsRepositories table repositories ↔ GivesRepositories table repositories := by
  have hread : ∀ {entries}, get? table "repositories" = some (.table entries) →
      (ReadAs RepositoryConfig.decode entries repositories ↔
        Pointwise RepositoryConfig.ReadFrom entries repositories) := by
    intro entries hentries
    have hall := (Toml.sorted_table_iff.1 (hsorted.of_get? hentries)).all
    change Pointwise (fun v c => RepositoryConfig.decode v = .ok c) entries repositories ↔ _
    exact pointwise_congr fun entry hentry _ => RepositoryConfig.decode_eq_ok_iff (hall entry hentry)
  constructor
  · rintro (⟨habsent, rfl⟩ | ⟨entries, hentries, h⟩)
    · exact .absent habsent
    · exact .given hentries ((hread hentries).1 h)
  · rintro (habsent | ⟨hentries, h⟩)
    · exact .inl ⟨habsent, rfl⟩
    · exact .inr ⟨_, hentries, (hread hentries).2 h⟩

/-- The members that are no sections are passed over, so that every table can be read whose sections can. -/
theorem checkMembers_sections {output : OutputFormat} {repositories : Dictionary RepositoryConfig}
    (houtput : optional "general" decodeGeneral .plain table = .ok output)
    (hrepositories : optional "repositories" decodeRepositories [] table = .ok repositories) :
    checkMembers [("general", check decodeGeneral), ("repositories", check decodeRepositories)] .ignored
      table = .ok () := by
  refine checkMembers_eq_ok_iff.2 fun ⟨key, v⟩ hmember => checkMember_ignored_eq_ok_iff.2 fun ok hok => ?_
  have hv : get? table key = some v := (get?_eq_some_iff_mem hsorted.sorted).2 hmember
  by_cases hgeneral : key = "general"
  · subst hgeneral
    obtain rfl : check decodeGeneral = ok := Option.some.inj hok
    exact check_of_optional houtput hv
  · by_cases hrepos : key = "repositories"
    · subst hrepos
      obtain rfl : check decodeRepositories = ok := Option.some.inj hok
      exact check_of_optional hrepositories hv
    · simp [List.lookup_cons, beq_eq_false_iff_ne.2 hgeneral, beq_eq_false_iff_ne.2 hrepos] at hok

theorem decode_table_eq_ok_iff {config : Config} :
    decode (Toml.table table) = .ok config ↔ config.fetch = ⟨false, false⟩ ∧
      GivesOutput table config.output ∧ ListsRepositories table config.repositories := by
  rw [decode_table_eq_ofMembers, ofMembers, ← optional_general_eq_ok_iff hsorted,
    ← optional_repositories_eq_ok_iff]
  simp only [Except.bind_eq_ok_iff]
  constructor
  · rintro ⟨_, -, output, houtput, repositories, hrepositories, h⟩
    obtain rfl := Except.ok.inj h
    exact ⟨rfl, houtput, hrepositories⟩
  · obtain ⟨output, fetch, repositories⟩ := config
    rintro ⟨rfl, houtput, hrepositories⟩
    exact ⟨(), checkMembers_sections hsorted houtput hrepositories, _, houtput, _, hrepositories, rfl⟩

end Read

/-! ## Whole files -/

theorem givesFetch_of_ofToml {text : String} {config : Config} (h : ofToml text = .ok config) :
    ∃ table, Toml.parse? text = some table ∧ GivesFetch table config.fetch := by
  unfold ofToml at h
  split at h
  · cases h
  · rename_i table htable
    refine ⟨table, htable, ?_⟩
    cases (ofTable_eq_iff (Toml.sorted_of_parse? htable)).1 h with
    | accepted _ hfetch _ => exact hfetch

/-- A table is accepted exactly if all its keys name sections and something is given by each of them. -/
theorem decision_ok_iff {table : Toml.Table} (hsorted : SortedAll Toml.Sorted table) {config : Config} :
    Decision table (.ok config) ↔ OnlySections table ∧ GivesOutput table config.output ∧
      GivesFetch table config.fetch ∧ ListsRepositories table config.repositories := by
  constructor
  · intro h
    cases h with
    | accepted hsections hfetch hrest =>
        rw [decode_erase_fetch] at hrest
        obtain ⟨-, houtput, hlists⟩ := (decode_table_eq_ok_iff hsorted).1 hrest
        exact ⟨hsections, houtput, hfetch, hlists⟩
  · rintro ⟨hsections, houtput, hfetch, hlists⟩
    obtain ⟨output, fetch, repositories⟩ := config
    have hrest : decode (Toml.table table) = .ok { output, repositories } :=
      (decode_table_eq_ok_iff hsorted).2 ⟨rfl, houtput, hlists⟩
    rw [← decode_erase_fetch] at hrest
    exact .accepted hsections hfetch hrest

/-- A configuration file that is a TOML document is decided by the first stage that objects. If none does,
what is read without the section on fetches is what would be read with it, apart from the options of a
fetch; these are the ones that the section gives. So there is a configuration exactly if all sections are
known and each gives what it is about, and the configuration is put together from that. -/
theorem ofToml_decided_by_stages {text : String} {table : Toml.Table}
    (h : Toml.parse? text = some table) :
    (∀ r, ofToml text = r ↔ Decision table r) ∧
      (∀ config, ofToml text = .ok config ↔ OnlySections table ∧ GivesOutput table config.output ∧
        GivesFetch table config.fetch ∧ GivesRepositories table config.repositories) ∧
      ∀ config, ofToml text = .ok config →
        (∃ plain, decode (Toml.table table) = .ok plain ∧ config.output = plain.output ∧
          config.repositories = plain.repositories ∧ plain.fetch = ⟨false, false⟩) ∧
        GivesFetch table config.fetch ∧
        ListsRepositories table config.repositories ∧
        ∀ name, name ∈ keys config.repositories ↔
          ∃ entries, get? table "repositories" = some (.table entries) ∧ name ∈ keys entries := by
  have hsorted : SortedAll Toml.Sorted table := Toml.sortedAll_of_parse? h
  have htext : ofToml text = ofTable table := by
    rw [ofToml, h]
  have hdecides : ∀ r, ofToml text = r ↔ Decision table r := by
    intro r
    rw [htext]
    exact ofTable_eq_iff hsorted.sorted
  refine ⟨hdecides, fun config => ?_, fun config hconfig => ?_⟩
  · rw [hdecides, decision_ok_iff hsorted, listsRepositories_iff hsorted]
  · obtain ⟨-, houtput, hfetch, hlists⟩ := (decision_ok_iff hsorted).1 ((hdecides _).1 hconfig)
    have hplain : decode (Toml.table table) =
        .ok { output := config.output, repositories := config.repositories } :=
      (decode_table_eq_ok_iff hsorted).2 ⟨rfl, houtput, hlists⟩
    exact ⟨⟨_, hplain, rfl, rfl, rfl⟩, hfetch, hlists, fun name => hlists.mem_keys_iff⟩

/-- Each section gives what it is about. -/
theorem ofToml_decided_by_stages_accepted :
    ∃ table, Toml.parse? ("[general]\ndefault_output = \"json\"\n[fetch]\nsafe_resume = true\n" ++
        "[repositories.main]\nformat = \"source\"") = some table ∧
      GivesOutput table .json ∧ GivesFetch table ⟨true, false⟩ ∧
      GivesRepositories table [("main", ⟨.source, none⟩)] ∧
      ListsRepositories table [("main", ⟨.source, none⟩)] := by
  have hread : ofToml ("[general]\ndefault_output = \"json\"\n[fetch]\nsafe_resume = true\n" ++
        "[repositories.main]\nformat = \"source\"") =
      .ok ⟨.json, ⟨true, false⟩, [("main", ⟨.source, none⟩)]⟩ := by decide +kernel
  obtain ⟨table, hparse, -⟩ := givesFetch_of_ofToml hread
  obtain ⟨-, hgiven, hlisted⟩ := ofToml_decided_by_stages hparse
  obtain ⟨-, houtput, hfetch, hrepositories⟩ := (hgiven _).1 hread
  exact ⟨table, hparse, houtput, hfetch, hrepositories, (hlisted _ hread).2.2.1⟩

/-- Of many faults the unknown section with the least name is reported. -/
example : ofToml "zoo = 1\nrepositories = 1\n[fetch]\nx = 1\n[bar]" =
    .error (.config (.invalid "unknown section [bar]")) := by decide +kernel

end Config

end PackageActions
