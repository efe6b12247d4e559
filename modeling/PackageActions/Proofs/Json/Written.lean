import PackageActions.Proofs.Dictionary
import PackageActions.Proofs.Json.Tokens

/-!
# Reading what was written

A value is read back from either of its texts, on one line or on several, with the members of its objects
in key order (`parse?_compact`, `parse?_pretty`). This holds of every value that is `Portable`: its whole
numbers have 64 bits, it holds no doubles, and it is nested no deeper than the reader follows.

Both texts put their parts between brackets in the same way and differ only in the blanks, so brackets are
dealt with once for any blanks (`Spells.bracketed`).
-/

namespace PackageActions.Json

open Text Parser

variable {α β : Type} {p : Parser α}

/-! ## Texts and what they spell -/

/-- A text spells a value if it begins with no blank and the parser reads exactly the value off it,
together with the blanks behind it, whatever may stand behind a value. -/
structure Spells (p : Parser α) (text : List Char) (a : α) : Prop where
  begins : ∃ c more, text = c :: more ∧ isBlank c = false
  takes : ∀ w rest, Blank w → Ended rest → NotBlank rest → Takes p (text ++ (w ++ rest)) a rest

theorem Spells.notBlank {text : List Char} {a : α} (h : Spells p text a) (rest : List Char) :
    NotBlank (text ++ rest) := by
  obtain ⟨c, more, rfl, hc⟩ := h.begins
  rintro _ ⟨⟩
  exact hc

theorem blank_nil : Blank [] := fun _ h => absurd h List.not_mem_nil

/-- What stands behind a value after its blanks: a mark, or the end of the text. -/
theorem ended_mark {c : Char} (hc : c = ',' ∨ c = ']' ∨ c = '\x7d') (rest : List Char) :
    Ended (c :: rest) ∧ NotBlank (c :: rest) := by
  constructor
  · rintro _ ⟨⟩
    rcases hc with rfl | rfl | rfl <;> rfl
  · rintro _ ⟨⟩
    rcases hc with rfl | rfl | rfl <;> rfl

/-! ## Lists between brackets -/

/-- A list of parts between brackets. -/
def bracketsOf (opening closing : Char) (p : Parser α) (f : List α → β) : Parser β := do
  let _ ← mark opening
  let items ← Parser.optional? (Parser.sepBy₁ p (mark ','))
  let _ ← mark closing
  pure (f (items.getD []))

/-- Texts between brackets, set apart by commas; blanks stand behind the first bracket and the commas, and
in front of the last bracket. An empty list has no blanks. -/
def bracketed (opening closing : Char) (w w' : List Char) (texts : List (List Char)) : List Char :=
  opening :: ((if texts.isEmpty then [] else w ++ ((',' :: w).intercalate texts ++ w')) ++ [closing])

theorem intercalate_cons (separator text : List Char) (texts : List (List Char)) :
    separator.intercalate (text :: texts) = text ++ texts.flatMap fun t => separator ++ t := by
  induction texts generalizing text with
  | nil => simp
  | cons next texts ih => rw [List.intercalate_cons_cons, ih]; simp [List.append_assoc]

section Brackets

variable {closing : Char} (hclosing : closing = ']' ∨ closing = '\x7d') {w w' : List Char}
  (hw : Blank w) (hw' : Blank w')
include hclosing hw hw'

/-- The induction is on the texts behind the first: each is read with the comma in front of it, and the
blanks before the bracket belong to the last. -/
theorem Spells.takes_first_and_more {text : List Char} {a : α} {texts : List (List Char)} {as : List α}
    (h : Spells p text a) (hmore : List.Forall₂ (Spells p) texts as) (rest : List Char) :
    ∃ middle,
      Takes p (text ++ ((texts.flatMap fun t => (',' :: w) ++ t) ++ (w' ++ closing :: rest))) a middle ∧
        Takes (many (mark ',' *> p)) middle as (closing :: rest) := by
  induction hmore generalizing text a with
  | nil =>
      obtain ⟨hended, hnotBlank⟩ := ended_mark (Or.inr hclosing) rest
      have hcomma : Refuses (mark ',') (closing :: rest) := by
        refine refuses_mark ?_
        rcases hclosing with rfl | rfl <;> simp
      exact ⟨closing :: rest, h.takes w' _ hw' hended hnotBlank, hcomma.seqRight.many⟩
  | @cons next b texts as hnext _ ih =>
      obtain ⟨middle, hfirst, hrest⟩ := ih hnext
      set behind := (texts.flatMap fun t => (',' :: w) ++ t) ++ (w' ++ closing :: rest) with hbehind
      obtain ⟨hended, hnotBlank⟩ := ended_mark (c := ',') (Or.inl rfl) (w ++ (next ++ behind))
      refine ⟨',' :: (w ++ (next ++ behind)), ?_, ?_⟩
      · have htakes := h.takes [] _ blank_nil hended hnotBlank
        simpa [hbehind] using htakes
      · have hcomma := (takes_mark ',' hw (hnext.notBlank behind)).seqRight hfirst
        have hshorter : middle.length < (',' :: (w ++ (next ++ behind))).length := by
          obtain ⟨hle, -⟩ := hfirst
          simp only [List.length_cons, List.length_append] at hle ⊢
          omega
        exact hcomma.many hshorter hrest

theorem Spells.bracketed {opening : Char} (hopening : isBlank opening = false)
    {texts : List (List Char)} {as : List α} (h : List.Forall₂ (Spells p) texts as)
    (hempty : ∀ rest, Refuses p (closing :: rest)) (f : List α → β) :
    Spells (bracketsOf opening closing p f) (bracketed opening closing w w' texts) (f as) := by
  refine ⟨⟨opening, _, rfl, hopening⟩, fun blanks rest hblanks _ hrest => ?_⟩
  have hclose : Takes (mark closing) (closing :: (blanks ++ rest)) closing rest :=
    takes_mark closing hblanks hrest
  cases h with
  | nil =>
      have hnotBlank : NotBlank (closing :: (blanks ++ rest)) :=
        (ended_mark (Or.inr hclosing) _).2
      refine (takes_mark opening blank_nil hnotBlank).bind ?_
      exact (hempty _).bind.optional?.bind (hclose.bind (takes_pure (f []) rest))
  | @cons text a texts as hfirst hmore =>
      obtain ⟨middle, htakes, hmany⟩ :=
        hfirst.takes_first_and_more hclosing hw hw' hmore (blanks ++ rest)
      have htext : Json.bracketed opening closing w w' (text :: texts) ++ (blanks ++ rest) =
          opening :: (w ++ (text ++ ((texts.flatMap fun t => (',' :: w) ++ t) ++
            (w' ++ closing :: (blanks ++ rest))))) := by
        simp [Json.bracketed, intercalate_cons]
      rw [htext]
      refine (takes_mark opening hw (hfirst.notBlank _)).bind ?_
      refine (htakes.sepBy₁ hmany).optional?.bind ?_
      exact hclose.bind (takes_pure (f (a :: as)) rest)

end Brackets

/-! ## Scalars -/

theorem refuses_word {s : String} {first c : Char} (v : Json) (hs : s.toList.head? = some first)
    (hne : c ≠ first) (rest : List Char) :
    Refuses (do Parser.string s; pure v : Parser Json) (c :: rest) :=
  (refuses_string hs (by simpa using hne)).bind

/-- What begins none of the three words is left to strings and numbers. -/
theorem scalar_of_not_word {c : Char} (hc : c ≠ 'n' ∧ c ≠ 't' ∧ c ≠ 'f') {v : Json}
    {rest rest' : List Char}
    (h : Takes ((do let s ← stringToken; pure (.string s)) <|>
      (do let n ← numeral; Parser.ofOption n.toJson?)) (c :: rest) v rest') :
    Takes scalar (c :: rest) v rest' := by
  obtain ⟨hn, ht, hf⟩ := hc
  refine Takes.orElse_right ?_ (refuses_word .null rfl hn rest)
  refine Takes.orElse_right ?_ (refuses_word (.bool true) rfl ht rest)
  exact h.orElse_right (refuses_word (.bool false) rfl hf rest)

theorem takes_scalar_string (s : String) (rest : List Char) :
    Takes scalar ((jsonQuoted s).toList ++ rest) (.string s) rest := by
  have htoken := takes_stringToken s rest
  rw [toList_jsonQuoted, List.cons_append] at htoken ⊢
  exact scalar_of_not_word (by decide) ((htoken.bind_pure Json.string).orElse_left _)

theorem takes_scalar_integer {n : Int} (hn : HasWord n) {rest : List Char} (h : Ended rest) :
    Takes scalar ((toString n).toList ++ rest) (.integer n) rest := by
  have hnumeral := takes_numeral n h
  obtain ⟨first, more, htext, hfirst⟩ := exists_toString_eq_cons n
  rw [htext] at hnumeral ⊢
  have hword : first ≠ 'n' ∧ first ≠ 't' ∧ first ≠ 'f' := by
    refine ⟨?_, ?_, ?_⟩ <;> rintro rfl <;> simp at hfirst
  have hquote : Refuses stringToken (first :: (more ++ rest)) := by
    refine (refuses_char ?_).bind
    rintro ⟨⟩
    simp at hfirst
  refine scalar_of_not_word hword (Takes.orElse_right ?_ hquote.bind)
  have hvalue : Takes (Parser.ofOption (Numeral.ofInt n).toJson?) rest (Json.integer n) rest := by
    rw [toJson?_ofInt hn]
    exact takes_pure (Json.integer n) rest
  exact hnumeral.bind hvalue

theorem refuses_scalar {c : Char} (hc : c = '[' ∨ c = '\x7b' ∨ c = ']') (rest : List Char) :
    Refuses scalar (c :: rest) := by
  obtain ⟨hn, ht, hf⟩ : c ≠ 'n' ∧ c ≠ 't' ∧ c ≠ 'f' := by
    rcases hc with rfl | rfl | rfl <;> decide
  have hquote : Refuses stringToken (c :: rest) := by
    refine (refuses_char ?_).bind
    rcases hc with rfl | rfl | rfl <;> simp
  have hnumeral : Refuses numeral (c :: rest) := by
    have hsign : Refuses (Parser.char '-') (c :: rest) := by
      refine refuses_char ?_
      rcases hc with rfl | rfl | rfl <;> simp
    have hdigits : Refuses wholeDigits (c :: rest) := by
      refine Refuses.orElse (refuses_char ?_).bind (refuses_satisfy ?_).bind
      · rcases hc with rfl | rfl | rfl <;> simp
      · rintro _ ⟨⟩
        rcases hc with rfl | rfl | rfl <;> decide
    exact hsign.optional?.refuses_bind hdigits.bind
  refine (refuses_word .null rfl hn rest).orElse ?_
  refine (refuses_word (.bool true) rfl ht rest).orElse ?_
  exact (refuses_word (.bool false) rfl hf rest).orElse (hquote.bind.orElse hnumeral.bind)

/-! ## Values that a text can carry -/

mutual

/-- A value without doubles whose integers have 64 bits and which is nested at most so deep. -/
def Portable : Json → Nat → Prop
  | .float _, _ => False
  | .integer n, _ => HasWord n
  | .array items, depth => 0 < depth ∧ PortableItems items (depth - 1)
  | .object members, depth => 0 < depth ∧ PortableMembers members (depth - 1)
  | _, _ => True

def PortableItems : List Json → Nat → Prop
  | [], _ => True
  | item :: rest, depth => Portable item depth ∧ PortableItems rest depth

def PortableMembers : List (String × Json) → Nat → Prop
  | [], _ => True
  | (_, value) :: rest, depth => Portable value depth ∧ PortableMembers rest depth

end

theorem portableItems_iff {items : List Json} {depth : Nat} :
    PortableItems items depth ↔ ∀ item ∈ items, item.Portable depth := by
  induction items with
  | nil => simp [PortableItems]
  | cons item rest ih => rw [PortableItems, ih, List.forall_mem_cons]

theorem spells_scalar {v : Json} (h : v.Portable 0) : Spells (token scalar) (scalarText v).toList v := by
  have htoken : ∀ {c : Char} {more : List Char}, (scalarText v).toList = c :: more → isBlank c = false →
      (∀ rest, Ended rest → Takes scalar ((scalarText v).toList ++ rest) v rest) →
      Spells (token scalar) (scalarText v).toList v := by
    intro c more htext hc htakes
    refine ⟨⟨c, more, htext, hc⟩, fun w rest hw hended hrest => ?_⟩
    have hbehind : Ended (w ++ rest) := by
      cases w with
      | nil => exact hended
      | cons c w =>
          rintro _ ⟨⟩
          simp [endsValue, hw c List.mem_cons_self]
    exact takes_token (htakes _ hbehind) hw hrest
  cases v with
  | null =>
      refine htoken rfl (by decide) fun rest _ => ?_
      exact ((takes_string "null" rest).bind_pure fun _ => Json.null).orElse_left _
  | bool b =>
      cases b with
      | true =>
          refine htoken rfl (by decide) fun rest _ => ?_
          have hword := (takes_string "true" rest).bind_pure fun _ => Json.bool true
          exact (hword.orElse_left _).orElse_right (refuses_word .null rfl (by decide) _)
      | false =>
          refine htoken rfl (by decide) fun rest _ => ?_
          have hword := (takes_string "false" rest).bind_pure fun _ => Json.bool false
          refine Takes.orElse_right ?_ (refuses_word .null rfl (by decide) _)
          exact (hword.orElse_left _).orElse_right (refuses_word (.bool true) rfl (by decide) _)
  | integer n =>
      obtain ⟨first, more, htext, hfirst⟩ := exists_toString_eq_cons n
      refine htoken htext ?_ fun rest hrest => takes_scalar_integer h hrest
      have hblank : ∀ c, isBlank c = true → ¬ (c = '-' ∨ c.isDigit = true) := by
        intro c hc
        obtain rfl | rfl | rfl | rfl : c = ' ' ∨ c = '\t' ∨ c = '\n' ∨ c = '\r' := by
          simpa [isBlank, or_assoc] using hc
        all_goals decide
      exact Bool.eq_false_iff.2 fun hc => hblank first hc hfirst
  | string s =>
      exact htoken (toList_jsonQuoted s) (by decide) fun rest _ => takes_scalar_string s rest
  | float x => exact absurd h id
  | array items => exact absurd h.1 (Nat.lt_irrefl 0)
  | object members => exact absurd h.1 (Nat.lt_irrefl 0)

/-! ## Values by their parts -/

theorem Spells.orElse_left {text : List Char} {a : α} (h : Spells p text a) (q : Parser α) :
    Spells (p <|> q) text a :=
  ⟨h.begins, fun w rest hw hended hrest => (h.takes w rest hw hended hrest).orElse_left q⟩

theorem Spells.orElse_right {q : Parser α} {text : List Char} {a : α} (h : Spells q text a)
    (hp : ∀ rest, Refuses p (text ++ rest)) : Spells (p <|> q) text a :=
  ⟨h.begins, fun w rest hw hended hrest => (h.takes w rest hw hended hrest).orElse_right (hp _)⟩

theorem spells_value_scalar {v : Json} (h : v.Portable 0) (depth : Nat) :
    Spells (value depth) (scalarText v).toList v := by
  cases depth with
  | zero => exact spells_scalar h
  | succ depth => exact (spells_scalar h).orElse_left _

theorem refuses_value_bracket (depth : Nat) (rest : List Char) : Refuses (value depth) (']' :: rest) := by
  have hscalar : Refuses (token scalar) (']' :: rest) := (refuses_scalar (by simp) rest).seqLeft
  cases depth with
  | zero => exact hscalar
  | succ depth =>
      have harray : Refuses (arrayOf (value depth)) (']' :: rest) := (refuses_mark (by simp)).bind
      have hobject : Refuses (objectOf (value depth)) (']' :: rest) := (refuses_mark (by simp)).bind
      exact hscalar.orElse (harray.orElse hobject)

section Layout

variable {w w' : List Char} (hw : Blank w) (hw' : Blank w') {texts : List (List Char)} {depth : Nat}
include hw

theorem spells_member (key : String) {text : List Char} {v : Json} (h : Spells (value depth) text v) :
    Spells (memberOf (value depth)) ((jsonQuoted key).toList ++ ':' :: (w ++ text)) (key, v) := by
  have hkey := toList_jsonQuoted key
  refine ⟨⟨quote, _, by rw [hkey, List.cons_append], by decide⟩, fun blanks rest hblanks hended hrest => ?_⟩
  have hcolon : NotBlank (':' :: (w ++ (text ++ (blanks ++ rest)))) := by
    rintro _ ⟨⟩
    rfl
  rw [List.append_assoc, List.cons_append, List.append_assoc]
  refine (takes_token (takes_stringToken key _) blank_nil hcolon).bind ?_
  refine (takes_mark ':' hw (h.notBlank _)).bind ?_
  exact (h.takes blanks rest hblanks hended hrest).bind_pure fun v => (key, v)

include hw'

theorem spells_array {items : List Json} (h : List.Forall₂ (Spells (value depth)) texts items) :
    Spells (value (depth + 1)) (bracketed '[' ']' w w' texts) (.array items) := by
  have harray : Spells (arrayOf (value depth)) (bracketed '[' ']' w w' texts) (.array items) :=
    Spells.bracketed (Or.inl rfl) hw hw' (by decide) h (refuses_value_bracket depth) Json.array
  exact (harray.orElse_left _).orElse_right fun rest => (refuses_scalar (by simp) _).seqLeft

theorem spells_object {members : List (String × Json)}
    (h : List.Forall₂ (Spells (memberOf (value depth))) texts members) :
    Spells (value (depth + 1)) (bracketed '\x7b' '\x7d' w w' texts)
      (.object (Dictionary.ofList members)) := by
  have hempty : ∀ rest, Refuses (memberOf (value depth)) ('\x7d' :: rest) := fun rest =>
    (refuses_char (by simp)).bind.seqLeft.bind
  have hobject : Spells (objectOf (value depth)) (bracketed '\x7b' '\x7d' w w' texts)
      (.object (Dictionary.ofList members)) :=
    Spells.bracketed (Or.inr rfl) hw hw' (by decide) h hempty
      fun members => Json.object (Dictionary.ofList members)
  have harray : ∀ rest, Refuses (arrayOf (value depth)) (bracketed '\x7b' '\x7d' w w' texts ++ rest) :=
    fun rest => (refuses_mark (by simp [bracketed])).bind
  refine (hobject.orElse_right harray).orElse_right fun rest => ?_
  exact (refuses_scalar (by simp) _).seqLeft

end Layout

/-! ## On one line -/

theorem toList_enclose {opening closing : String} {o c : Char} (ho : opening.toList = [o])
    (hc : closing.toList = [c]) (parts : List String) :
    (enclose opening closing parts).toList = bracketed o c [] [] (parts.map String.toList) := by
  simp only [enclose, String.toList_append, String.toList_intercalate, ho, hc, bracketed]
  cases parts <;> simp

mutual

theorem spells_compact : ∀ (v : Json) (depth : Nat), v.Portable depth →
    Spells (value depth) v.compact.toList v.sorted
  | .null, depth, _ => spells_value_scalar (v := .null) trivial depth
  | .bool b, depth, _ => spells_value_scalar (v := .bool b) trivial depth
  | .integer n, depth, h => spells_value_scalar (v := .integer n) h depth
  | .string s, depth, _ => spells_value_scalar (v := .string s) trivial depth
  | .array items, depth + 1, h => by
      rw [compact, toList_enclose rfl rfl, sorted]
      exact spells_array blank_nil blank_nil (spells_compactItems items depth h.2)
  | .object members, depth + 1, h => by
      rw [compact, toList_enclose rfl rfl, sorted]
      exact spells_object blank_nil blank_nil (spells_compactMembers members depth h.2)
  | .array _, 0, h => absurd h.1 (Nat.lt_irrefl 0)
  | .object _, 0, h => absurd h.1 (Nat.lt_irrefl 0)

theorem spells_compactItems : ∀ (items : List Json) (depth : Nat), PortableItems items depth →
    List.Forall₂ (Spells (value depth)) ((compactItems items).map String.toList) (sortedItems items)
  | [], _, _ => .nil
  | item :: rest, depth, h =>
      .cons (spells_compact item depth h.1) (spells_compactItems rest depth h.2)

theorem spells_compactMembers : ∀ (members : List (String × Json)) (depth : Nat),
    PortableMembers members depth → List.Forall₂ (Spells (memberOf (value depth)))
      ((compactMembers members).map String.toList) (sortedMembers members)
  | [], _, _ => .nil
  | (key, v) :: rest, depth, h => by
      refine .cons ?_ (spells_compactMembers rest depth h.2)
      have hmember := spells_member blank_nil key (spells_compact v depth h.1)
      simpa [String.toList_append] using hmember

end

/-! ## On several lines -/

theorem blank_newline (depth : Nat) : Blank (newline depth).toList := by
  intro c hc
  rw [newline, String.toList_ofList] at hc
  rcases List.mem_cons.1 hc with rfl | hspace
  · rfl
  · rw [List.eq_of_mem_replicate hspace]
    rfl

theorem toList_encloseLines {opening closing : String} {o c : Char} (ho : opening.toList = [o])
    (hc : closing.toList = [c]) (depth : Nat) (parts : List String) :
    (encloseLines depth opening closing parts).toList =
      bracketed o c (newline (depth + 1)).toList (newline depth).toList (parts.map String.toList) := by
  unfold encloseLines bracketed
  cases parts with
  | nil => simp [ho, hc]
  | cons part parts =>
      have hcomma : ",".toList = [','] := rfl
      simp [String.toList_append, String.toList_intercalate, ho, hc, hcomma]

mutual

theorem spells_prettyAt (n : Nat) : ∀ (v : Json) (depth : Nat), v.Portable depth →
    Spells (value depth) (prettyAt n v).toList v.sorted
  | .null, depth, _ => spells_value_scalar (v := .null) trivial depth
  | .bool b, depth, _ => spells_value_scalar (v := .bool b) trivial depth
  | .integer n, depth, h => spells_value_scalar (v := .integer n) h depth
  | .string s, depth, _ => spells_value_scalar (v := .string s) trivial depth
  | .array items, depth + 1, h => by
      rw [prettyAt, toList_encloseLines rfl rfl, sorted]
      exact spells_array (blank_newline _) (blank_newline _) (spells_prettyItems (n + 1) items depth h.2)
  | .object members, depth + 1, h => by
      rw [prettyAt, toList_encloseLines rfl rfl, sorted]
      exact spells_object (blank_newline _) (blank_newline _)
        (spells_prettyMembers (n + 1) members depth h.2)
  | .array _, 0, h => absurd h.1 (Nat.lt_irrefl 0)
  | .object _, 0, h => absurd h.1 (Nat.lt_irrefl 0)

theorem spells_prettyItems (n : Nat) : ∀ (items : List Json) (depth : Nat), PortableItems items depth →
    List.Forall₂ (Spells (value depth)) ((prettyItems n items).map String.toList) (sortedItems items)
  | [], _, _ => .nil
  | item :: rest, depth, h =>
      .cons (spells_prettyAt n item depth h.1) (spells_prettyItems n rest depth h.2)

theorem spells_prettyMembers (n : Nat) : ∀ (members : List (String × Json)) (depth : Nat),
    PortableMembers members depth → List.Forall₂ (Spells (memberOf (value depth)))
      ((prettyMembers n members).map String.toList) (sortedMembers members)
  | [], _, _ => .nil
  | (key, v) :: rest, depth, h => by
      refine .cons ?_ (spells_prettyMembers n rest depth h.2)
      have hspace : Blank [' '] := by simp [Blank, isBlank]
      have hmember := spells_member hspace key (spells_prettyAt n v depth h.1)
      simpa [String.toList_append] using hmember

end

/-! ## Whole texts -/

/-- A text that spells a value is read as that value, also with blanks behind it. -/
theorem parse?_of_spells {text : String} {body w : List Char} {v : Json}
    (htext : text.toList = body ++ w) (h : Spells (value maxDepth) body v) (hw : Blank w) :
    parse? text = some v := by
  have hnone : Ended [] ∧ NotBlank [] := ⟨by simp [Ended], by simp [NotBlank]⟩
  have hvalue : Takes (value maxDepth) text.toList v [] := by
    have htakes := h.takes w [] hw hnone.1 hnone.2
    rwa [List.append_nil, ← htext] at htakes
  have hblanks : Takes blanks text.toList () text.toList := by
    rw [htext]
    exact takes_blanks blank_nil (h.notBlank w)
  exact (hblanks.seqRight hvalue).run?

theorem parse?_compact {v : Json} (h : v.Portable maxDepth) : parse? v.compact = some v.sorted :=
  parse?_of_spells (List.append_nil _).symm (spells_compact v maxDepth h) blank_nil

theorem parse?_pretty {v : Json} (h : v.Portable maxDepth) : parse? v.pretty = some v.sorted :=
  parse?_of_spells (List.append_nil _).symm (spells_prettyAt 0 v maxDepth h) blank_nil

end PackageActions.Json
