import PackageActions.Command.Report
import PackageActions.Proofs.Command.Shown
import PackageActions.Proofs.Error.Rereading

/-!
# Reports of failures agree

A failure is reported in lines and as JSON. Both begin with the same message, and there is a line for the
kind, the code or the hint exactly if there is a member for it, with the same said in both
(`Failure.reports_agree`). Besides, the JSON report of a known error holds the error itself, which can be
read back.
-/

namespace PackageActions

open Decoding Dictionary

namespace Failure

/-- What stands under a key, if anything does. -/
def entry {α : Type} (key : String) (v? : Option α) : List (String × α) :=
  (v?.map fun v => (key, v)).toList

theorem get?_entry {α : Type} (key other : String) (v? : Option α) :
    get? (entry key v?) other = if key = other then v? else none := by
  cases v? <;> simp [entry]

/-! ## The report in lines -/

/-- A labelled line as it stands behind the message. -/
def line (told : String × String) : String := "\n  " ++ told.1 ++ ": " ++ told.2

/-- The lines behind the message of a known error. -/
def details (e : Error) : List (String × String) :=
  entry "Kind" (e.actionKind?.map ActionErrorKind.text) ++ entry "Code" (some e.code) ++
    entry "Hint" e.hint?

theorem detail_eq_join (label : String) (text? : Option String) :
    detail label text? = String.join ((entry label text?).map line) := by
  cases text? <;> simp [detail, entry, line]

theorem text_known (e : Error) : (known e).text = e.message ++ String.join ((details e).map line) := by
  simp only [text, details, detail_eq_join, List.map_append, String.join_append, String.append_assoc]

theorem keys_details_sublist (e : Error) : (keys (details e)).Sublist ["Kind", "Code", "Hint"] := by
  rw [details]
  cases e.actionKind? <;> cases e.hint? <;> simp [entry, keys]

theorem get?_details (e : Error) : get? (details e) "Kind" = e.actionKind?.map ActionErrorKind.text ∧
    get? (details e) "Code" = some e.code ∧ get? (details e) "Hint" = e.hint? := by
  simp [details, get?_append, get?_entry]

/-! ## The report as JSON -/

/-- The members of the report of a known error, as they are written. -/
def members (e : Error) : List (String × Json) :=
  entry "message" (some (.string e.message)) ++ entry "kind" (e.actionKind?.map ActionErrorKind.toJson) ++
    entry "code" (some (.string e.code)) ++ entry "hint" (e.hint?.map .string) ++
    entry "error" (some e.toJson)

theorem member_eq_entry (key : String) (v? : Option Json) : member key v? = entry key v? := by
  cases v? <;> rfl

theorem toJson_known (e : Error) : (known e).toJson = Output.envelope "error" (.object (members e)) := by
  rw [toJson, member_eq_entry, member_eq_entry]
  rfl

theorem keys_members_sublist (e : Error) :
    (keys (members e)).Sublist ["message", "kind", "code", "hint", "error"] := by
  rw [members]
  cases e.actionKind? <;> cases e.hint? <;> simp [entry, keys]

theorem get?_members (e : Error) : get? (members e) "message" = some (.string e.message) ∧
    get? (members e) "kind" = e.actionKind?.map ActionErrorKind.toJson ∧
    get? (members e) "code" = some (.string e.code) ∧
    get? (members e) "hint" = e.hint?.map .string ∧ get? (members e) "error" = some e.toJson := by
  simp [members, get?_append, get?_entry]

theorem portable_members {e : Error} (h : e.CountFits) (depth : Nat) :
    Json.PortableMembers (members e) (depth + 3) := by
  have herror : e.toJson.Portable (depth + 3) := Error.portable_toJson h depth
  rw [members]
  cases e.actionKind? <;> cases e.hint? <;>
    simp [entry, ActionErrorKind.toJson, Json.PortableMembers, Json.Portable, herror]

/-! ## Agreement -/

/-- A member of one report and a line of the other both tell of a thing, or neither does if there is
nothing to tell. -/
structure ToldInBoth {α : Type} (data : Dictionary Json) (key : String) (toJson : α → Json)
    (lines : Dictionary String) (label : String) (text : α → String) (thing? : Option α) : Prop where
  member : get? data key = thing?.map toJson
  line : get? lines label = thing?.map text

/-- The two reports of a known error: the members of the one and the lines of the other, behind the message
that both begin with. -/
structure KnownAgree (e : Error) (data : Dictionary Json) (lines : Dictionary String) : Prop where
  text : (known e).text = e.message ++ String.join (lines.map line)
  message : get? data "message" = some (.string e.message)
  labels : (keys lines).Sublist ["Kind", "Code", "Hint"]
  members : ∀ key ∈ keys data, key ∈ ["message", "kind", "code", "hint", "error"]
  kind : ToldInBoth data "kind" ActionErrorKind.toJson lines "Kind" ActionErrorKind.text e.actionKind?
  code : ToldInBoth data "code" .string lines "Code" id (some e.code)
  hint : ToldInBoth data "hint" .string lines "Hint" id e.hint?
  hasKind : "kind" ∈ keys data ↔ ∃ action, e = .action action
  error : ∃ v, get? data "error" = some v ∧ Error.decode v = .ok e.reread

theorem exists_data (e : Error) : ∃ data, (Json.object (members e)).sorted = .object data ∧
    KnownAgree e data (details e) := by
  have hnodup : (keys (members e)).Nodup := (keys_members_sublist e).nodup (by decide)
  obtain ⟨data, hdata, -, hget, -⟩ := Json.exists_sorted_object (members e) hnodup
  obtain ⟨hmessage, hkind, hcode, hhint, herror⟩ := get?_members e
  obtain ⟨hkindLine, hcodeLine, hhintLine⟩ := get?_details e
  have hkindMember : get? data "kind" = e.actionKind?.map ActionErrorKind.toJson := by
    rw [hget, hkind, Option.map_map]
    rfl
  have hhintMember : get? data "hint" = e.hint?.map .string := by
    rw [hget, hhint, Option.map_map]
    rfl
  refine ⟨data, hdata, text_known e, ?_, keys_details_sublist e, ?_, ⟨hkindMember, hkindLine⟩,
    ⟨?_, hcodeLine⟩, ⟨hhintMember, ?_⟩, ?_, ⟨e.toJson.sorted, ?_, e.decode_sorted_toJson⟩⟩
  · rw [hget, hmessage]
    rfl
  · intro key hkey
    have hwritten : key ∈ keys (members e) := (mem_keys_iff_of_get? hget key).1 hkey
    exact (keys_members_sublist e).subset hwritten
  · rw [hget, hcode]
    rfl
  · rw [hhintLine, Option.map_id]
    rfl
  · -- only errors of building a value have a kind
    rw [mem_keys_iff, hkindMember, Option.isSome_map]
    cases e <;> simp [Error.actionKind?]
  · rw [hget, herror]
    rfl

/-- The number of arguments that the failure tells of, if it does, has 64 bits. -/
def CountFits : Failure → Prop
  | known e => e.CountFits
  | writing _ => True

theorem portable_toJson {f : Failure} (h : f.CountFits) : f.toJson.Portable Json.maxDepth := by
  cases f with
  | known e =>
      have hmembers : Json.PortableMembers (members e) (Json.maxDepth - 2) := portable_members h 122
      rw [toJson_known]
      simpa [Output.envelope, Json.Portable, Json.PortableMembers, Json.maxDepth] using hmembers
  | writing failure =>
      simp [toJson, Output.envelope, Json.Portable, Json.PortableMembers, Json.maxDepth]

/-- The data of a JSON report say what the report in lines says. When an answer could not be written they
are a message and a code, and there are no lines behind the message. -/
def AgreesWith (data : Dictionary Json) : Failure → Prop
  | known e => ∃ lines, KnownAgree e data lines
  | writing failure => data = [("code", .string "error.io"), ("message", .string failure.message)] ∧
      (writing failure).text = "I/O error: " ++ failure.message

/-- The JSON report of a failure is read as an object of its data and the type `error`, and the data agree
with the report in lines. -/
theorem reports_agree (f : Failure) (h : f.CountFits) :
    ∃ data, Json.parse? f.toJson.pretty = some (.object [("data", .object data), ("type", .string "error")]) ∧
      f.AgreesWith data := by
  have hparse := Json.parse?_pretty (portable_toJson h)
  cases f with
  | known e =>
      obtain ⟨data, hdata, hagree⟩ := exists_data e
      refine ⟨data, ?_, details e, hagree⟩
      rw [hparse, toJson_known, Output.sorted_envelope, hdata]
  | writing failure =>
      have hlt : "code" < "message" := by decide
      refine ⟨_, ?_, rfl, rfl⟩
      rw [hparse, toJson, Output.sorted_envelope]
      simp [Json.sorted, Json.sortedMembers, ofList, Dictionary.insert, hlt]

/-- The text of the error holds quotes and a line like those behind the message. -/
theorem reports_agree_quoted :
    let f := known (.action (.wrongArity "a\"b\n  Kind: none" 18446744073709551615 "0"))
    f.CountFits ∧ ∃ data, Json.parse? f.toJson.pretty =
      some (.object [("data", .object data), ("type", .string "error")]) ∧ f.AgreesWith data := by
  intro f
  have hfits : f.CountFits := by
    show 18446744073709551615 < UInt64.size
    decide
  exact ⟨hfits, reports_agree f hfits⟩

end Failure

end PackageActions
