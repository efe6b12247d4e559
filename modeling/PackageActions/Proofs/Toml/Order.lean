import PackageActions.Proofs.Dictionary
import PackageActions.Proofs.Text.Parser
import PackageActions.Toml.Document

/-!
# The key order of documents

A statement changes the tables of a document by setting entries (`keepsOrder_changeAt`), and the values
that statements assign are put together from inline tables that are built in the same way
(`yields_value`). So every table of a document, however deep it lies, lists its keys in increasing order
(`sortedAll_of_parse?`), whatever the order in the text.
-/

namespace PackageActions

open Dictionary

namespace Toml

/-! ## Key order at every depth -/

/-- Every table in the value lists its entries by strictly increasing key. -/
inductive Written.Sorted : Written → Prop where
  | string (s : String) : Sorted (.string s)
  | integer (n : Option Int64) : Sorted (.integer n)
  | float (x : Option Binary64) : Sorted (.float x)
  | boolean (b : Bool) : Sorted (.boolean b)
  | datetime (t : Datetime) : Sorted (.datetime t)
  | array {items : List Written} (hitems : ∀ item ∈ items, Sorted item) : Sorted (.array items)
  | table {entries : Dictionary Written} (hkeys : Dictionary.Sorted entries)
      (hentries : ∀ entry ∈ entries, Sorted entry.2) : Sorted (.table entries)

/-- Every table in the draft, finished or not, lists its entries by strictly increasing key. -/
inductive Draft.Sorted : Draft → Prop where
  | value {v : Written} (hv : v.Sorted) : Sorted (.value v)
  | table {origin : Origin} {entries : Entries} (hkeys : Dictionary.Sorted entries)
      (hentries : ∀ entry ∈ entries, Sorted entry.2) : Sorted (.table origin entries)
  | tables {earlier : List Written} {last : Entries} (hearlier : ∀ v ∈ earlier, v.Sorted)
      (hkeys : Dictionary.Sorted last) (hlast : ∀ entry ∈ last, Sorted entry.2) :
    Sorted (.tables earlier last)

theorem Written.sorted_table_iff {entries : Dictionary Written} :
    Written.Sorted (.table entries) ↔ SortedAll Written.Sorted entries := by
  constructor
  · rintro (_ | _ | _ | _ | _ | _ | ⟨hkeys, hentries⟩)
    exact ⟨hkeys, hentries⟩
  · exact fun h => .table h.sorted h.all

theorem Draft.sorted_table_iff {origin : Origin} {entries : Entries} :
    Draft.Sorted (.table origin entries) ↔ SortedAll Draft.Sorted entries := by
  constructor
  · rintro (_ | ⟨hkeys, hentries⟩)
    exact ⟨hkeys, hentries⟩
  · exact fun h => .table h.sorted h.all

theorem Draft.sorted_tables_iff {earlier : List Written} {last : Entries} :
    Draft.Sorted (.tables earlier last) ↔
      (∀ v ∈ earlier, v.Sorted) ∧ SortedAll Draft.Sorted last := by
  constructor
  · rintro (_ | _ | ⟨hearlier, hkeys, hlast⟩)
    exact ⟨hearlier, hkeys, hlast⟩
  · exact fun h => .tables h.1 h.2.sorted h.2.all

end Toml

/-- Every table in the value lists its entries by strictly increasing key. -/
inductive Toml.Sorted : Toml → Prop where
  | string (s : String) : Sorted (.string s)
  | integer (n : Int64) : Sorted (.integer n)
  | float (x : Binary64) : Sorted (.float x)
  | boolean (b : Bool) : Sorted (.boolean b)
  | datetime (t : Toml.Datetime) : Sorted (.datetime t)
  | array {items : List Toml} (hitems : ∀ item ∈ items, Sorted item) : Sorted (.array items)
  | table {entries : Toml.Table} (hkeys : Dictionary.Sorted entries)
      (hentries : ∀ entry ∈ entries, Sorted entry.2) : Sorted (.table entries)

namespace Toml

theorem sorted_table_iff {entries : Table} :
    Toml.Sorted (.table entries) ↔ SortedAll Toml.Sorted entries := by
  constructor
  · rintro (_ | _ | _ | _ | _ | _ | ⟨hkeys, hentries⟩)
    exact ⟨hkeys, hentries⟩
  · exact fun h => .table h.sorted h.all

/-! ## Finished tables -/

theorem keys_finishEntries (entries : Entries) : keys (finishEntries entries) = keys entries := by
  induction entries with
  | nil => rfl
  | cons entry rest ih =>
      obtain ⟨key, draft⟩ := entry
      rw [finishEntries]
      exact congrArg (key :: ·) ih

theorem sorted_finishEntries {entries : Entries} (h : Dictionary.Sorted entries) :
    Dictionary.Sorted (finishEntries entries) := by
  rw [Dictionary.Sorted, keys_finishEntries]
  exact h

mutual

theorem Draft.Sorted.finish : ∀ {draft : Draft}, draft.Sorted → draft.finish.Sorted
  | .value _, .value hv => hv
  | .table _ entries, .table hkeys hentries =>
      .table (sorted_finishEntries hkeys) (forall_finishEntries entries hentries)
  | .tables earlier last, .tables hearlier hkeys hlast => by
      -- the earlier tables of the array are finished already
      have hfinished : Written.Sorted (.table (finishEntries last)) :=
        .table (sorted_finishEntries hkeys) (forall_finishEntries last hlast)
      refine .array fun item hitem => ?_
      rcases List.mem_append.1 hitem with hitem | hitem
      · exact hearlier item hitem
      · rwa [List.mem_singleton.1 hitem]

theorem forall_finishEntries : ∀ entries : List (String × Draft),
    (∀ entry ∈ entries, entry.2.Sorted) → ∀ entry ∈ finishEntries entries, entry.2.Sorted
  | [], _ => List.forall_mem_nil _
  | (_, _) :: rest, h =>
      List.forall_mem_cons.2 ⟨Draft.Sorted.finish (h _ List.mem_cons_self),
        forall_finishEntries rest fun entry hentry => h entry (List.mem_cons_of_mem _ hentry)⟩

end

theorem sortedAll_finishEntries {entries : Entries} (h : SortedAll Draft.Sorted entries) :
    SortedAll Written.Sorted (finishEntries entries) :=
  ⟨sorted_finishEntries h.sorted, forall_finishEntries entries h.all⟩

/-! ## Changes -/

/-- A change that leaves tables in key order. -/
def KeepsOrder (change : Entries → Option Entries) : Prop :=
  ∀ entries entries', change entries = some entries' →
    SortedAll Draft.Sorted entries → SortedAll Draft.Sorted entries'

theorem keepsOrder_changeAt {change : Origin → Entries → Option Entries}
    (h : ∀ origin, KeepsOrder (change origin)) (dotted : Bool) (origin : Origin) (path : List String) :
    KeepsOrder (changeAt dotted change origin path) := by
  -- on the way down one entry of each table is set anew
  induction path generalizing origin with
  | nil => exact h origin
  | cons key path ih =>
      intro entries entries' hchange hentries
      rw [changeAt] at hchange
      split at hchange
      · obtain ⟨inner, hinner, rfl⟩ := Option.map_eq_some_iff.1 hchange
        exact hentries.insert key (Draft.sorted_table_iff.2 (ih _ _ _ hinner sortedAll_nil))
      · rename_i hget
        split at hchange
        · cases hchange
        · obtain ⟨inner, hinner, rfl⟩ := Option.map_eq_some_iff.1 hchange
          have hsorted := Draft.sorted_table_iff.1 (hentries.of_get? hget)
          exact hentries.insert key (Draft.sorted_table_iff.2 (ih _ _ _ hinner hsorted))
      · rename_i hget
        obtain ⟨last, hlast, rfl⟩ := Option.map_eq_some_iff.1 hchange
        obtain ⟨hearlier, hsorted⟩ := Draft.sorted_tables_iff.1 (hentries.of_get? hget)
        exact hentries.insert key (Draft.sorted_tables_iff.2 ⟨hearlier, ih _ _ _ hlast hsorted⟩)
      · cases hchange

theorem keepsOrder_putValue (dotted : Bool) (key : String) {v : Written} (hv : v.Sorted)
    (origin : Origin) : KeepsOrder (putValue dotted key v origin) := by
  intro entries entries' hchange hentries
  unfold putValue at hchange
  split at hchange
  · cases hchange
  · split at hchange
    · cases hchange
    · obtain rfl := Option.some.inj hchange
      exact hentries.insert key (.value hv)

theorem keepsOrder_putTable (key : String) (origin : Origin) : KeepsOrder (putTable key origin) := by
  intro entries entries' hchange hentries
  unfold putTable at hchange
  split at hchange
  · obtain rfl := Option.some.inj hchange
    exact hentries.insert key (Draft.sorted_table_iff.2 sortedAll_nil)
  · rename_i hget
    obtain rfl := Option.some.inj hchange
    have hsorted := Draft.sorted_table_iff.1 (hentries.of_get? hget)
    exact hentries.insert key (Draft.sorted_table_iff.2 hsorted)
  · cases hchange

theorem keepsOrder_putElement (key : String) (origin : Origin) :
    KeepsOrder (putElement key origin) := by
  intro entries entries' hchange hentries
  unfold putElement at hchange
  split at hchange
  · obtain rfl := Option.some.inj hchange
    exact hentries.insert key (Draft.sorted_tables_iff.2 ⟨List.forall_mem_nil _, sortedAll_nil⟩)
  · rename_i hget
    obtain rfl := Option.some.inj hchange
    obtain ⟨hearlier, hlast⟩ := Draft.sorted_tables_iff.1 (hentries.of_get? hget)
    have hfinished := Written.sorted_table_iff.2 (sortedAll_finishEntries hlast)
    refine hentries.insert key (Draft.sorted_tables_iff.2 ⟨fun v hv => ?_, sortedAll_nil⟩)
    rcases List.mem_append.1 hv with hv | hv
    · exact hearlier v hv
    · rwa [List.mem_singleton.1 hv]
  · cases hchange

theorem keepsOrder_assignFrom (path : KeyPath) {v : Written} (hv : v.Sorted) (origin : Origin) :
    KeepsOrder (assignFrom path v origin) :=
  keepsOrder_changeAt (keepsOrder_putValue _ path.key hv) true origin path.tables

/-- What every step keeps, a run of steps keeps. -/
theorem foldlM_keeps {σ α : Type} (Inv : σ → Prop) {P : α → Prop} {step : σ → α → Option σ}
    (hstep : ∀ s a s', P a → step s a = some s' → Inv s → Inv s') {as : List α}
    (has : ∀ a ∈ as, P a) {s s' : σ} (h : as.foldlM step s = some s') (hs : Inv s) : Inv s' := by
  induction as generalizing s with
  | nil =>
      obtain rfl := Option.some.inj h
      exact hs
  | cons a rest ih =>
      obtain ⟨ha, hrest⟩ := List.forall_mem_cons.1 has
      rw [List.foldlM_cons] at h
      obtain ⟨next, hnext, h⟩ := Option.bind_eq_some_iff.1 h
      exact ih hrest h (hstep s a next ha hnext hs)

/-! ## Values -/

theorem sorted_inlineTable {pairs : List (KeyPath × Written)} {entries : Dictionary Written}
    (hpairs : ∀ pair ∈ pairs, pair.2.Sorted) (h : inlineTable? pairs = some entries) :
    Written.Sorted (.table entries) := by
  obtain ⟨drafts, hdrafts, rfl⟩ := Option.map_eq_some_iff.1 h
  have hsorted : SortedAll Draft.Sorted drafts :=
    foldlM_keeps _ (fun entries pair entries' hpair hassign =>
      keepsOrder_assignFrom pair.1 hpair .header entries entries' hassign) hpairs hdrafts sortedAll_nil
  exact Written.sorted_table_iff.2 (sortedAll_finishEntries hsorted)

open Text Text.Parser

theorem yields_scalar : Yields scalar Written.Sorted := by
  unfold scalar
  refine Yields.orElse ?_ (Yields.orElse ?_ (Yields.orElse ?_ (Yields.orElse ?_ ?_)))
  · exact yields_map Written.Sorted.string
  · exact yields_map Written.Sorted.boolean
  · exact yields_map Written.Sorted.datetime
  · exact yields_map Written.Sorted.float
  · exact yields_map Written.Sorted.integer

theorem forall_getD_nil {α : Type} {P : α → Prop} {as : Option (List α)}
    (h : ∀ l, as = some l → Each P l) : Each P (as.getD []) := by
  cases as with
  | none => exact List.forall_mem_nil _
  | some l => exact h l rfl

theorem yields_arrayOf {item : Parser Written} (hitem : Yields item Written.Sorted) :
    Yields (arrayOf item) Written.Sorted := by
  unfold arrayOf
  refine yields_bind fun _ => yields_bind fun _ => ?_
  refine hitem.seqLeft.sepBy₁.optional?.bind fun items hitems => ?_
  exact yields_bind fun _ => yields_bind fun _ => yields_pure (.array (forall_getD_nil hitems))

theorem yields_pairOf {gap : Parser Unit} {value : Parser Written}
    (hvalue : Yields value Written.Sorted) : Yields (pairOf gap value) fun pair => pair.2.Sorted := by
  unfold pairOf
  refine yields_bind fun path => yields_bind fun _ => yields_bind fun _ => yields_bind fun _ => ?_
  exact hvalue.bind fun v hv => yields_pure hv

theorem yields_inlineTableOf {value : Parser Written} (hvalue : Yields value Written.Sorted) :
    Yields (inlineTableOf value) Written.Sorted := by
  unfold inlineTableOf
  refine yields_bind fun _ => yields_bind fun _ => ?_
  refine (yields_pairOf hvalue).seqLeft.sepBy₁.optional?.bind fun pairs hpairs => ?_
  refine yields_bind fun _ => yields_bind fun _ => ?_
  refine Yields.bind (yields_ofOption fun entries hentries => ?_) fun entries hsorted =>
    yields_pure hsorted
  exact sorted_inlineTable (forall_getD_nil hpairs) hentries

theorem yields_value (depth : Nat) : Yields (value depth) Written.Sorted := by
  induction depth with
  | zero => exact yields_scalar
  | succ depth ih =>
      exact yields_scalar.orElse ((yields_arrayOf ih).orElse (yields_inlineTableOf ih))

/-! ## Documents -/

/-- Every table in the value that the statement assigns is in key order. -/
def Statement.Sorted : Statement → Prop
  | .openTable _ => True
  | .openElement _ => True
  | .assign _ v => v.Sorted

theorem yields_statement : Yields statement Statement.Sorted := by
  unfold statement
  refine Yields.orElse ?_ (Yields.orElse ?_ ?_)
  · exact yields_map fun _ => trivial
  · exact yields_map fun _ => trivial
  · exact (yields_pairOf (yields_value maxDepth)).map fun _ hpair => hpair

theorem yields_line : Yields line fun said => ∀ statement, said = some statement → statement.Sorted := by
  unfold line
  refine yields_bind fun _ => yields_statement.optional?.bind fun said hsaid => ?_
  exact yields_bind fun _ => yields_bind fun _ => yields_pure hsaid

theorem yields_document : Yields document
    (Each fun said => ∀ statement, said = some statement → statement.Sorted) := by
  unfold document
  exact yields_bind fun _ => yields_line.sepBy₁

theorem Progress.sortedAll_step {p p' : Progress} {statement : Statement} (hstatement : statement.Sorted)
    (h : p.step statement = some p') (hp : SortedAll Draft.Sorted p.entries) :
    SortedAll Draft.Sorted p'.entries := by
  cases statement with
  | openTable path =>
      obtain ⟨entries, hentries, rfl⟩ := Option.map_eq_some_iff.1 h
      exact keepsOrder_changeAt (keepsOrder_putTable path.key) false .header path.tables _ _ hentries hp
  | openElement path =>
      obtain ⟨entries, hentries, rfl⟩ := Option.map_eq_some_iff.1 h
      exact keepsOrder_changeAt (keepsOrder_putElement path.key) false .header path.tables _ _
        hentries hp
  | assign path v =>
      obtain ⟨entries, hentries, rfl⟩ := Option.map_eq_some_iff.1 h
      exact keepsOrder_changeAt (keepsOrder_assignFrom path hstatement) false .header p.current _ _
        hentries hp

theorem sortedAll_ofStatements? {statements : List Statement} {entries : Dictionary Written}
    (hstatements : ∀ statement ∈ statements, statement.Sorted)
    (h : ofStatements? statements = some entries) : SortedAll Written.Sorted entries := by
  obtain ⟨p, hp, rfl⟩ := Option.map_eq_some_iff.1 h
  have hsorted : SortedAll Draft.Sorted p.entries :=
    foldlM_keeps (fun p => SortedAll Draft.Sorted p.entries)
      (fun _ _ _ => Progress.sortedAll_step) hstatements hp sortedAll_nil
  exact sortedAll_finishEntries hsorted

/-! ## What values stand for -/

theorem Written.keys_values? {entries : Dictionary Written} {table : Table}
    (h : values? entries = some table) : keys table = keys entries := by
  induction entries generalizing table with
  | nil =>
      obtain rfl := Option.some.inj h
      rfl
  | cons entry rest ih =>
      obtain ⟨key, written⟩ := entry
      rw [values?] at h
      obtain ⟨v, -, h⟩ := Option.bind_eq_some_iff.1 h
      obtain ⟨table', htable', h⟩ := Option.bind_eq_some_iff.1 h
      obtain rfl := Option.some.inj h
      exact congrArg (key :: ·) (ih htable')

theorem Written.sorted_values? {entries : Dictionary Written} {table : Table}
    (hentries : Dictionary.Sorted entries) (h : values? entries = some table) :
    Dictionary.Sorted table := by
  rw [Dictionary.Sorted, keys_values? h]
  exact hentries

namespace Written

mutual

theorem Sorted.value? : ∀ {w : Written} {v : Toml}, w.Sorted → w.value? = some v → v.Sorted
  | .string s, _, _, h => by
      obtain rfl := Option.some.inj h
      exact .string s
  | .integer n, _, _, h => by
      obtain ⟨n, -, rfl⟩ := Option.map_eq_some_iff.1 h
      exact .integer n
  | .float x, _, _, h => by
      obtain ⟨x, -, rfl⟩ := Option.map_eq_some_iff.1 h
      exact .float x
  | .boolean b, _, _, h => by
      obtain rfl := Option.some.inj h
      exact .boolean b
  | .datetime t, _, _, h => by
      obtain rfl := Option.some.inj h
      exact .datetime t
  | .array items, _, .array hitems, h => by
      obtain ⟨vs, hvs, rfl⟩ := Option.map_eq_some_iff.1 h
      exact .array (forall_items? items hitems hvs)
  | .table entries, _, .table hkeys hentries, h => by
      rw [Written.value?] at h
      split at h
      · -- a date-time that the table spells
        obtain ⟨t, -, rfl⟩ := Option.map_eq_some_iff.1 h
        exact .datetime t
      · obtain ⟨table, htable, rfl⟩ := Option.map_eq_some_iff.1 h
        exact .table (sorted_values? hkeys htable) (forall_values? entries hentries htable)

theorem forall_items? : ∀ (items : List Written) {vs : List Toml}, (∀ item ∈ items, item.Sorted) →
    items? items = some vs → ∀ v ∈ vs, v.Sorted
  | [], _, _, h => by
      obtain rfl := Option.some.inj h
      exact List.forall_mem_nil _
  | item :: rest, _, hitems, h => by
      rw [items?] at h
      obtain ⟨v, hv, h⟩ := Option.bind_eq_some_iff.1 h
      obtain ⟨vs, hvs, h⟩ := Option.bind_eq_some_iff.1 h
      obtain rfl := Option.some.inj h
      obtain ⟨hitem, hrest⟩ := List.forall_mem_cons.1 hitems
      exact List.forall_mem_cons.2 ⟨Sorted.value? hitem hv, forall_items? rest hrest hvs⟩

theorem forall_values? : ∀ (entries : List (String × Written)) {table : Table},
    (∀ entry ∈ entries, entry.2.Sorted) → values? entries = some table →
      ∀ entry ∈ table, entry.2.Sorted
  | [], _, _, h => by
      obtain rfl := Option.some.inj h
      exact List.forall_mem_nil _
  | (key, written) :: rest, _, hentries, h => by
      rw [values?] at h
      obtain ⟨v, hv, h⟩ := Option.bind_eq_some_iff.1 h
      obtain ⟨table, htable, h⟩ := Option.bind_eq_some_iff.1 h
      obtain rfl := Option.some.inj h
      obtain ⟨hentry, hrest⟩ := List.forall_mem_cons.1 hentries
      exact List.forall_mem_cons.2 ⟨Sorted.value? hentry hv, forall_values? rest hrest htable⟩

end

end Written

/-- All tables of a document list their keys in increasing order. -/
theorem sortedAll_of_parse? {text : String} {table : Table} (h : parse? text = some table) :
    SortedAll Toml.Sorted table := by
  unfold parse? at h
  obtain ⟨lines, hlines, h⟩ := Option.bind_eq_some_iff.1 h
  obtain ⟨entries, hentries, h⟩ := Option.bind_eq_some_iff.1 h
  have hstatements : ∀ statement ∈ lines.filterMap id, statement.Sorted := by
    intro statement hstatement
    obtain ⟨said, hsaid, hsome⟩ := List.mem_filterMap.1 hstatement
    exact yields_document.of_run? hlines said hsaid statement hsome
  have hsorted := sortedAll_ofStatements? hstatements hentries
  exact ⟨Written.sorted_values? hsorted.sorted h, Written.forall_values? entries hsorted.all h⟩

theorem sorted_of_parse? {text : String} {table : Table} (h : parse? text = some table) :
    Dictionary.Sorted table :=
  (sortedAll_of_parse? h).sorted

end Toml

end PackageActions
