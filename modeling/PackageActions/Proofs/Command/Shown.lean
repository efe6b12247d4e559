import PackageActions.Command.Output
import PackageActions.Proofs.Object

/-!
# What is shown of an answer

An answer is shown in one of two forms. As JSON it is one object, of a type and the data that go with that type
(`Output.ToldBy`), so it can be read back from what is shown (`parse?_text`). In plain lines there are as many
lines as the answer has things to tell (`Output.ListedIn`). `Output.Shows` says of a text that it is the one form
or the other of an answer, and it is so for one text only (`text_eq_iff`).
-/

namespace PackageActions

open Dictionary

namespace Output

/-! ## Either form -/

/-- What JSON tells of a class. -/
def classEntry (c : Class) : Json :=
  .object [("name", .string c.name),
    ("superclass", c.superclass?.elim .null fun above => .string above.name),
    ("is_abstract", .bool c.isAbstract)]

/-- The type of an answer and the data that go with it in JSON. -/
inductive ToldBy : Output → String → Json → Prop where
  | object (o : Object) : ToldBy (.object o) "object"
      (.object [("class", .string o.family.name), ("value", o.content)])
  | fetchOptions (o : FetchOptions) : ToldBy (.fetchOptions o) "fetch_options"
      (.object [("safe_resume", .bool o.safeResume), ("fetch_unneeded", .bool o.fetchUnneeded)])
  | classes (cs : List Class) : ToldBy (.classes cs) "classes"
      (.array (cs.map classEntry))
  | supports (kind : ActionKind) (names : List String) : ToldBy (.supports kind names) "supports"
      (.object [("action", .string kind.name), ("repositories", .array (names.map .string))])

/-- The two lines of options of a fetch. -/
def flagLines (o : FetchOptions) : List String :=
  ["  safe_resume: " ++ Action.flagText o.safeResume,
    "  fetch_unneeded: " ++ Action.flagText o.fetchUnneeded]

/-- What a row of a table tells of a class. -/
def classCells (c : Class) : List String :=
  [c.name, c.superclass?.elim "-" Class.name, if c.isAbstract then "yes" else "no"]

/-- The plain lines of an answer. -/
inductive ListedIn : Output → List String → Prop where
  | action (a : Action) : ListedIn (.object (.action a)) [a.kind.className, "  action: " ++ a.text]
  | options (o : FetchOptions) :
      ListedIn (.object (.options o)) ("FetchActionOptions" :: flagLines o)
  | failure (f : FetchFailure) : ListedIn (.object (.failure f))
      ["FetchActionFailure", "  target_file: " ++ f.targetFile,
        "  requires_manual_fetching: " ++ Action.flagText f.requiresManualFetching,
        "  failed_automatic_fetching: " ++ Action.flagText f.failedAutomaticFetching,
        "  failed_integrity_checks: " ++ f.failedIntegrityChecks]
  | probe (p : AnyProbe) : ListedIn (.object (.probe p))
      [(Class.ofProbe p.kind).name, "  action: " ++ p.kind.name]
  | fetchOptions (o : FetchOptions) : ListedIn (.fetchOptions o) (flagLines o)
  | classes (cs : List Class) : ListedIn (.classes cs)
      (Text.Table.lines ["Class", "Superclass", "Abstract"] (cs.map classCells))
  | noSupporter (kind : ActionKind) :
      ListedIn (.supports kind []) ["No repository supports " ++ kind.name ++ "."]
  | supporters (kind : ActionKind) {names : List String} (hnames : names ≠ []) :
      ListedIn (.supports kind names) names

/-- The text is what is shown of the answer, as JSON or in plain lines. -/
inductive Shows (output : Output) : Bool → String → Prop where
  | json {type : String} {data : Json} (h : output.ToldBy type data) :
      Shows output true ((Json.object [("type", .string type), ("data", data)]).pretty ++ "\n")
  | plain {lines : List String} (h : output.ListedIn lines) :
      Shows output false (String.join (lines.map fun line => line ++ "\n"))

variable {output : Output}

/-! ## As JSON -/

theorem classToJson_eq : classToJson = classEntry := by
  funext c
  rw [classToJson, classEntry]
  cases c.superclass? <;> rfl

theorem ToldBy.toJson_eq {type : String} {data : Json} (h : output.ToldBy type data) :
    output.toJson = .object [("type", .string type), ("data", data)] := by
  cases h with
  | object o => rfl
  | fetchOptions o => rfl
  | classes cs =>
      rw [toJson, classToJson_eq]
      rfl
  | supports kind names => rfl

theorem exists_toldBy (output : Output) : ∃ type data, output.ToldBy type data := by
  cases output with
  | object o => exact ⟨_, _, .object o⟩
  | fetchOptions o => exact ⟨_, _, .fetchOptions o⟩
  | classes cs => exact ⟨_, _, .classes cs⟩
  | supports kind names => exact ⟨_, _, .supports kind names⟩

/-- A typed object in key order: the data come before the type. -/
theorem sorted_envelope (type : String) (data : Json) : (envelope type data).sorted =
    .object [("data", data.sorted), ("type", .string type)] := by
  have hlt : "data" < "type" := by decide
  simp [envelope, Json.sorted, Json.sortedMembers, ofList, Dictionary.insert, hlt]

theorem portable_classEntry (c : Class) (depth : Nat) : (classEntry c).Portable (depth + 1) := by
  rw [classEntry]
  cases c.superclass? <;> simp [Json.Portable, Json.PortableMembers]

theorem ToldBy.portable {type : String} {data : Json} (h : output.ToldBy type data) (depth : Nat) :
    data.Portable (depth + 3) := by
  cases h with
  | object o =>
      have hcontent : o.content.Portable (depth + 2) := o.portable_content depth
      simpa [Json.Portable, Json.PortableMembers] using hcontent
  | fetchOptions o => simp [Json.Portable, Json.PortableMembers]
  | classes cs =>
      have hentries : ∀ entry ∈ cs.map classEntry, entry.Portable (depth + 2) := by
        intro entry hentry
        obtain ⟨c, -, rfl⟩ := List.mem_map.1 hentry
        exact portable_classEntry c (depth + 1)
      exact ⟨Nat.succ_pos _, Json.portableItems_iff.2 hentries⟩
  | supports kind names =>
      have hnames : ∀ name ∈ names.map Json.string, name.Portable (depth + 1) := by
        intro name hname
        obtain ⟨_, -, rfl⟩ := List.mem_map.1 hname
        trivial
      exact ⟨Nat.succ_pos _, trivial, ⟨Nat.succ_pos _, Json.portableItems_iff.2 hnames⟩, trivial⟩

/-- The text of a typed object and its end of line are read as that object. -/
theorem ToldBy.parse?_line {type : String} {data : Json} (h : output.ToldBy type data) :
    Json.parse? ((Json.object [("type", .string type), ("data", data)]).pretty ++ "\n") =
      some (.object [("data", data.sorted), ("type", .string type)]) := by
  have hportable : (envelope type data).Portable Json.maxDepth := by
    have hdata : data.Portable (Json.maxDepth - 1) := h.portable 123
    exact ⟨by decide, trivial, hdata, trivial⟩
  have hblank : Json.Blank ['\n'] := fun c hc => by
    rw [List.mem_singleton.1 hc]
    rfl
  rw [← sorted_envelope]
  exact Json.parse?_of_spells (String.toList_append ..) (Json.spells_prettyAt 0 _ _ hportable) hblank

/-! ## In plain lines -/

theorem classRow_eq : classRow = classCells := by
  funext c
  rw [classRow, classCells]
  cases c.superclass? <;> rfl

theorem ListedIn.lines_eq {lines : List String} (h : output.ListedIn lines) : output.lines = lines := by
  cases h with
  | action a => cases a <;> rfl
  | options o => rfl
  | failure f => rfl
  | probe p => rfl
  | fetchOptions o => rfl
  | classes cs =>
      rw [Output.lines, classRow_eq]
  | noSupporter kind => rfl
  | supporters kind hnames =>
      cases lines with
      | nil => exact absurd rfl hnames
      | cons name rest => rfl

theorem exists_listedIn (output : Output) : ∃ lines, output.ListedIn lines := by
  cases output with
  | object o =>
      cases o with
      | action a => exact ⟨_, .action a⟩
      | options o => exact ⟨_, .options o⟩
      | failure f => exact ⟨_, .failure f⟩
      | probe p => exact ⟨_, .probe p⟩
  | fetchOptions o => exact ⟨_, .fetchOptions o⟩
  | classes cs => exact ⟨_, .classes cs⟩
  | supports kind names =>
      by_cases hnames : names = []
      · subst hnames
        exact ⟨_, .noSupporter kind⟩
      · exact ⟨_, .supporters kind hnames⟩

/-! ## What is shown -/

theorem Shows.text_eq {json : Bool} {shown : String} (h : output.Shows json shown) :
    output.text json = shown := by
  cases h with
  | json h =>
      rw [text, if_pos rfl, h.toJson_eq]
      simp [joinLines]
  | plain h =>
      rw [text, if_neg Bool.false_ne_true, h.lines_eq]
      rfl

theorem shows_text (json : Bool) (output : Output) : output.Shows json (output.text json) := by
  cases json with
  | true =>
      obtain ⟨type, data, h⟩ := output.exists_toldBy
      rw [(Shows.json h).text_eq]
      exact .json h
  | false =>
      obtain ⟨lines, h⟩ := output.exists_listedIn
      rw [(Shows.plain h).text_eq]
      exact .plain h

/-- The JSON form is read as a typed object. -/
theorem parse?_text (output : Output) : ∃ type data, output.ToldBy type data ∧
    Json.parse? (output.text true) = some (.object [("data", data.sorted), ("type", .string type)]) := by
  obtain ⟨type, data, h⟩ := output.exists_toldBy
  refine ⟨type, data, h, ?_⟩
  rw [(Shows.json h).text_eq]
  exact h.parse?_line

theorem text_eq_iff {json : Bool} {shown : String} : output.text json = shown ↔ output.Shows json shown := by
  constructor
  · rintro rfl
    exact output.shows_text json
  · exact Shows.text_eq

end Output

end PackageActions
