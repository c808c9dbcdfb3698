import BiomeAtlas.Proofs.Members

/-! # Values are read back

A plain value (`Value.Plain`) is written without any spelling that stands for something else: a word
that is no keyword, a whole number that fits 64 bits, a text, or a list, a tuple or a record of such
values. Whatever follows it, a plain value is read back up to the delimiter, at every level of
indentation (`Value.Plain.reads`); the induction is on the value, with one lemma for each kind. So a
document that is written is read as the value it was written from (`Value.Plain.parse?_render`).

Reading is bounded in two ways. Every list, tuple or record takes two steps of nesting, and twice
the length of what is written is enough for the rest. -/

namespace BiomeAtlas.Ron

/-! ## Single values -/

/-- The words that stand for something else than themselves. -/
def keywords : List String :=
  ["true", "false", "Some", "None"] ++ specials

theorem identifier?_eq_none {c : Char} (hc : isNameStart c = false) (text : List Char) :
    identifier? (c :: text) = none := by
  unfold identifier?
  split
  · rfl
  · split
    · next eq =>
      obtain ⟨rfl, -⟩ := List.cons.inj eq
      exact absurd hc (by decide)
    · next eq =>
      obtain ⟨rfl, -⟩ := List.cons.inj eq
      simp [hc]
    · rfl

namespace Scanner

section Leaves

variable {text rest : List Char} {fuel budget : Nat}

/-- No keyword and no empty tuple comes next. These are tried before anything else. -/
structure Wordless (text : List Char) : Prop where
  keyword : ∀ word ∈ keywords, acceptWord word text = some (false, text)
  unit : acceptText "()" text = some (false, text)

theorem Wordless.words (h : Wordless text) :
    acceptWord "true" text = some (false, text) ∧ acceptWord "false" text = some (false, text) ∧
      acceptWord "Some" text = some (false, text) ∧ acceptWord "None" text = some (false, text) :=
  ⟨h.keyword _ (by decide), h.keyword _ (by decide), h.keyword _ (by decide),
    h.keyword _ (by decide)⟩

/-- No keyword begins with anything but a letter. -/
theorem wordless_of_mark {c : Char} (hc : c.isAlpha = false)
    (hunit : c = '(' → text.head? ≠ some ')') :
    Wordless (c :: text) := by
  have letters : ∀ word ∈ keywords, word.toList.head?.any Char.isAlpha = true := by decide
  refine ⟨fun word hword => acceptWord_of_head (letters word hword) (by simpa using hc), ?_⟩
  by_cases group : c = '('
  · subst group
    have unit : "()".toList = ['(', ')'] := rfl
    cases text with
    | nil => rfl
    | cons d text =>
      have filled : d ≠ ')' := by simpa using hunit
      simp [acceptText, unit, afterPrefix?, filled.symm]
  · exact acceptText_of_head (c := '(') (by decide) (by simpa using group)

theorem value_number {n : Int} (hn : FitsWord n) (hrest : Delimited rest) :
    value {} (fuel + 1) budget (n.repr.toList ++ rest) =
      some (.number (.integer n none), rest) := by
  have range := range?_number hn hrest
  obtain ⟨c, more, eq, first⟩ := repr_append n rest
  rw [eq] at range ⊢
  have noGroup : c ≠ '(' := by rintro rfl; simp at first
  have wordless : Wordless (c :: more) :=
    wordless_of_mark (isAlpha_of_sign first) (absurd · noGroup)
  simp [value, wordless.words, wordless.unit, range]

theorem value_word {name : List Char} (hname : isName name = true)
    (hword : String.ofList name ∉ keywords) (hrest : Delimited rest) :
    value {} (fuel + 1) budget (name ++ rest) = some (.word (String.ofList name), rest) := by
  have letters : ∀ word ∈ keywords, word.toList.all Unicode.isIdentifierContinue = true := by decide
  have keyword : ∀ word ∈ keywords,
      acceptWord word (name ++ rest) = some (false, name ++ rest) := by
    intro word hkeyword
    refine acceptWord_name hname hrest (List.all_eq_true.mp (letters word hkeyword)) ?_
    rintro rfl
    exact hword (by simpa using hkeyword)
  have first {sign : Char} (hsign : isNameStart sign = false) :
      (name ++ rest).head? ≠ some sign := by
    obtain ⟨c, later, rfl, letter⟩ := first_of_isName hname
    rintro ⟨⟩
    simp [isNameStart_of_isAlpha letter] at hsign
  have wordless : Wordless (name ++ rest) :=
    ⟨keyword, acceptText_of_head (c := '(') (by decide) (first (by decide))⟩
  have range : range? (name ++ rest) = some (none, name ++ rest) :=
    range?_eq_none (fun word hspecial => keyword word (List.mem_append_right _ hspecial))
      (opensNumber_name hname hrest)
      (first (by decide))
  have noGroup : rest.head? ≠ some '(' := fun opens => absurd (hrest '(' opens) (by decide)
  simp [value, wordless.words, wordless.unit, range, identifier?_append hname hrest,
    gap_eq_some hrest.afterGap?, noGroup]

/-- The marks that open a text, a tuple or a record, and a list. -/
def openings : List Char := ['"', '(', '[']

theorem range?_of_mark {c : Char} (hc : c ∈ openings) :
    range? (c :: text) = some (none, c :: text) := by
  have letters : ∀ word ∈ specials, word.toList.head?.any Char.isAlpha = true := by decide
  obtain ⟨noLetter, noPoint, noByte, noDigit, noPlus, noMinus⟩ :
      c.isAlpha = false ∧ c ≠ '.' ∧ c ≠ 'b' ∧ c.isDigit = false ∧ c ≠ '+' ∧ c ≠ '-' := by
    simp only [openings, List.mem_cons, List.not_mem_nil, or_false] at hc
    rcases hc with rfl | rfl | rfl <;> decide
  refine range?_eq_none (fun word hword =>
    acceptWord_of_head (letters word hword) (by simpa using noLetter)) ?_ ?_
  · simp [opensNumber, noPoint, noByte, noDigit, noPlus, noMinus]
  · simpa using noPoint

theorem value_text (content : String) :
    value {} (fuel + 1) budget (quote content ++ rest) = some (.text content, rest) := by
  have read := text_quote content rest
  obtain ⟨more, eq⟩ : ∃ more, quote content ++ rest = '"' :: more := ⟨_, rfl⟩
  rw [eq] at read ⊢
  have wordless : Wordless ('"' :: more) := wordless_of_mark (by decide) (by simp)
  have range : range? ('"' :: more) = some (none, '"' :: more) := range?_of_mark (by decide)
  have noName : identifier? ('"' :: more) = none := identifier?_eq_none (by decide) more
  simp [value, wordless.words, wordless.unit, range, noName, read]

theorem value_list {members : List Value} (hbudget : 0 < budget)
    (hmembers : items {} fuel (budget - 1) ']' true text = some (members, ']' :: rest)) :
    value {} (fuel + 1) budget ('[' :: text) = some (.list members, rest) := by
  have wordless : Wordless ('[' :: text) := wordless_of_mark (by decide) (by simp)
  have range : range? ('[' :: text) = some (none, '[' :: text) := range?_of_mark (by decide)
  have noName : identifier? ('[' :: text) = none := identifier?_eq_none (by decide) text
  simp [value, wordless.words, wordless.unit, range, noName, expect, hbudget, hmembers]

theorem value_group (hunit : text.head? ≠ some ')') :
    value {} (fuel + 1) budget ('(' :: text) = group {} fuel budget none ('(' :: text) := by
  have wordless : Wordless ('(' :: text) := wordless_of_mark (by decide) fun _ => hunit
  have range : range? ('(' :: text) = some (none, '(' :: text) := range?_of_mark (by decide)
  have noName : identifier? ('(' :: text) = none := identifier?_eq_none (by decide) text
  simp [value, wordless.words, wordless.unit, range, noName]

theorem group_tuple {members : List Value} (hbudget : 0 < budget)
    (hnames : namesMembers text = false)
    (hmembers : items {} fuel (budget - 1) ')' true text = some (members, ')' :: rest)) :
    group {} (fuel + 1) budget none ('(' :: text) = some (.tuple none members, rest) := by
  simp [group, expect, hbudget, hnames, hmembers]

theorem group_record {members : List (String × Value)} (hbudget : 0 < budget)
    (hnames : namesMembers text = true)
    (hmembers : fields {} fuel (budget - 1) true text = some (members, ')' :: rest)) :
    group {} (fuel + 1) budget none ('(' :: text) = some (.record none members, rest) := by
  simp [group, expect, hbudget, hnames, hmembers]

end Leaves

end Scanner

/-! ## Nested values -/

namespace Value

/-- The values that are written without any spelling that stands for something else: words, whole
numbers, texts, and lists, tuples and records of them, nested at most so deep. Tuples and records
have members, but no names. -/
inductive Plain : Nat → Value → Prop
  | word {depth name} (hname : isName name.toList = true) (hword : name ∉ keywords) :
      Plain depth (.word name)
  | number {depth n} (hn : FitsWord n) : Plain depth (.number (.integer n none))
  | text {depth content} : Plain depth (.text content)
  | list {depth items} (hitems : ∀ item ∈ items, Plain depth item) : Plain (depth + 1) (.list items)
  | tuple {depth items} (hne : items ≠ []) (hitems : ∀ item ∈ items, Plain depth item) :
      Plain (depth + 1) (.tuple none items)
  | record {depth fields} (hne : fields ≠ [])
      (hnames : ∀ field ∈ fields, isName field.1.toList = true)
      (hfields : ∀ field ∈ fields, Plain depth field.2) : Plain (depth + 1) (.record none fields)

/-- How a value is read, at whatever level it was written. -/
structure Reads (depth : Nat) (v : Value) : Prop where
  /-- It begins like a value. -/
  opens (level : Nat) : Opens (v.write level)
  /-- It is not taken for the name of a member. -/
  unnamed (level : Nat) {rest : List Char} (hrest : Delimited rest)
    (hcolon : rest.head? ≠ some ':') :
    namesMembers (v.write level ++ rest) = false
  /-- It is read back up to the delimiter. -/
  value (level fuel budget : Nat) {rest : List Char} (hfuel : 2 * (v.write level).length ≤ fuel + 1)
    (hbudget : 2 * depth ≤ budget) (hrest : Delimited rest) :
    Scanner.value {} (fuel + 1) budget (v.write level ++ rest) = some (v, rest)

section Names

variable {name rest : List Char}

theorem opens_name (hname : isName name = true) : Opens name := by
  obtain ⟨c, later, rfl, letter⟩ := first_of_isName hname
  exact ⟨c, later, rfl,
    not_mem_idleMarks (fun c => c == '_' || c.isAlpha) (by simpa using letter) (by decide)⟩

/-- A name in front of a colon names a member. -/
theorem namesMembers_name (hname : isName name = true) (hrest : Delimited rest) :
    namesMembers (name ++ rest) = (rest.head? == some ':') := by
  have gap := (opens_name hname).afterGap? rest
  simp only [namesMembers, gap, Option.bind_eq_bind, Option.bind_some,
    identifier?_append hname hrest, hrest.afterGap?]
  cases rest with
  | nil => rfl
  | cons c rest =>
    by_cases colon : c = ':'
    · subst colon
      rfl
    · simp [colon]

theorem namesMembers_of_gap {start text : List Char} (hstart : afterGap? .outside start = some text)
    (htext : afterGap? .outside text = some text) : namesMembers start = namesMembers text := by
  simp [namesMembers, hstart, htext]

end Names

section Kinds

variable {depth : Nat} {v : Value}

theorem Reads.value_of_le (h : Reads depth v) (level : Nat) {fuel budget : Nat} {rest : List Char}
    (hfuel : 2 * (v.write level).length ≤ fuel) (hbudget : 2 * depth ≤ budget)
    (hrest : Delimited rest) :
    Scanner.value {} fuel budget (v.write level ++ rest) = some (v, rest) := by
  obtain ⟨c, more, written, -⟩ := h.opens level
  obtain ⟨fuel, rfl⟩ : ∃ k, fuel = k + 1 := ⟨fuel - 1, by simp [written] at hfuel; omega⟩
  exact h.value level fuel budget (by omega) hbudget hrest

/-- A value that begins with a mark of its own is not taken for a name. -/
theorem Reads.of_mark (hmark : ∀ level, ∃ c more, v.write level = c :: more ∧ c ∉ idleMarks ∧
    isNameStart c = false) (hvalue : ∀ level fuel budget rest,
      2 * (v.write level).length ≤ fuel + 1 → 2 * depth ≤ budget → Delimited rest →
      Scanner.value {} (fuel + 1) budget (v.write level ++ rest) = some (v, rest)) :
    Reads depth v where
  opens level := by
    obtain ⟨c, more, written, idle, -⟩ := hmark level
    exact ⟨c, more, written, idle⟩
  unnamed level rest hrest hcolon := by
    obtain ⟨c, more, written, idle, noName⟩ := hmark level
    have gap := (show Opens (c :: more) from ⟨c, more, rfl, idle⟩).afterGap? rest
    simp only [written, namesMembers, gap, Option.bind_eq_bind, Option.bind_some]
    simp [identifier?_eq_none noName]
  value level fuel budget rest := hvalue level fuel budget rest

theorem reads_word {name : String} (hname : isName name.toList = true) (hword : name ∉ keywords) :
    Reads depth (.word name) where
  opens level := by simpa [write] using opens_name hname
  unnamed level rest hrest hcolon := by simpa [write, namesMembers_name hname hrest] using hcolon
  value level fuel budget rest hfuel hbudget hrest := by
    simpa [write] using Scanner.value_word hname (by simpa using hword) hrest

theorem reads_number {n : Int} (hn : FitsWord n) : Reads depth (.number (.integer n none)) := by
  refine .of_mark (fun level => ?_) fun level fuel budget rest hfuel hbudget hrest => ?_
  · obtain ⟨c, more, eq, first⟩ := repr_append n []
    have idle : c ∉ idleMarks :=
      not_mem_idleMarks (fun c => c == '-' || c.isDigit) (by simpa using first) (by decide)
    have noName : isNameStart c = false := by
      rcases first with rfl | digit
      · rfl
      · exact isNameStart_of_isDigit digit
    exact ⟨c, more, by simpa [write, Number.write] using eq, idle, noName⟩
  · simpa [write, Number.write] using Scanner.value_number hn hrest

theorem reads_text {content : String} : Reads depth (.text content) :=
  .of_mark (fun _ => ⟨'"', _, rfl, by decide, by decide⟩) fun _ _ _ _ _ _ _ =>
    Scanner.value_text content

variable {items : List Value} {fields : List (String × Value)} {level fuel budget : Nat}
  {rest start text : List Char}

theorem writeItems_eq (level : Nat) (items : List Value) :
    writeItems level items = items.map (write level) := by
  induction items with
  | nil => rfl
  | cons item items ih => simp [writeItems, ih]

/-- Items are read back up to the closing mark. -/
theorem items_read {closing : Char} (hitems : ∀ item ∈ items, Reads depth item)
    (hclosing : closing ∈ delimiters) (hcomma : closing ≠ ',')
    (hlisted : Listed closing (write level) items text)
    (hgap : afterGap? .outside start = some (text ++ rest)) (hfuel : 2 * text.length ≤ fuel)
    (hbudget : 2 * depth < budget) :
    Scanner.items {} fuel budget closing true start = some (items, closing :: rest) :=
  (Scanner.loops_items (by omega) closing).read hclosing hcomma hlisted
    (fun item hitem => (hitems item hitem).opens level)
    (fun item hitem _ _ hfuel hrest =>
      (hitems item hitem).value_of_le level hfuel (by omega) hrest) hfuel hgap

theorem write_list (level : Nat) (items : List Value) :
    (list items).write level = enclosed '[' ']' level (items.map (write (level + 1))) := by
  simp [write, writeItems_eq]

theorem reads_list (hitems : ∀ item ∈ items, Reads depth item) :
    Reads (depth + 1) (.list items) := by
  refine .of_mark (fun level => ?_) fun level fuel budget rest hfuel hbudget hrest => ?_
  · obtain ⟨more, eq⟩ := exists_enclosed_eq '[' ']' level (items.map (write (level + 1)))
    exact ⟨'[', more, by rw [write_list, eq], by decide, by decide⟩
  · have opens : ∀ item ∈ items, Opens (item.write (level + 1)) :=
      fun item hitem => (hitems item hitem).opens (level + 1)
    rw [write_list] at hfuel ⊢
    obtain ⟨start, text, eq, gap, listed, shorter, -⟩ :=
      enclosed_append '[' ']' (by decide) (by decide) opens level rest
    rw [eq]
    exact Scanner.value_list (by omega)
      (items_read hitems (by decide) (by decide) listed gap (by omega) (by omega))

theorem write_tuple (level : Nat) (items : List Value) :
    (tuple none items).write level = enclosed '(' ')' level (items.map (write (level + 1))) := by
  simp [write, writeItems_eq]

/-- The first member of a tuple tells that it is no record: it is not taken for a name. -/
theorem reads_tuple (hne : items ≠ []) (hitems : ∀ item ∈ items, Reads depth item) :
    Reads (depth + 1) (.tuple none items) := by
  refine .of_mark (fun level => ?_) fun level fuel budget rest hfuel hbudget hrest => ?_
  · obtain ⟨more, eq⟩ := exists_enclosed_eq '(' ')' level (items.map (write (level + 1)))
    exact ⟨'(', more, by rw [write_tuple, eq], by decide, by decide⟩
  · have opens : ∀ item ∈ items, Opens (item.write (level + 1)) :=
      fun item hitem => (hitems item hitem).opens (level + 1)
    rw [write_tuple] at hfuel ⊢
    obtain ⟨start, text, eq, gap, listed, shorter, nonempty⟩ :=
      enclosed_append '(' ')' (by decide) (by decide) opens level rest
    obtain ⟨first, hfirst, behind, shape, ended, colon⟩ :=
      listed.first (by decide) (by decide) hne rest
    have unnamed : namesMembers start = false := by
      rw [namesMembers_of_gap gap (listed.afterGap? (by decide) opens rest), shape]
      exact (hitems first hfirst).unnamed (level + 1) ended colon
    obtain ⟨fuel, rfl⟩ : ∃ k, fuel = k + 1 := ⟨fuel - 1, by omega⟩
    rw [eq, Scanner.value_group (nonempty hne)]
    exact Scanner.group_tuple (by omega) unnamed
      (items_read hitems (by decide) (by decide) listed gap (by omega) (by omega))

/-- How a named member is written. -/
def writeField (level : Nat) (field : String × Value) : List Char :=
  field.1.toList ++ ':' :: ' ' :: field.2.write level

theorem write_record (level : Nat) (fields : List (String × Value)) :
    (record none fields).write level =
      enclosed '(' ')' level (fields.map (writeField (level + 1))) := by
  have each (level : Nat) : writeFields level fields = fields.map (writeField level) := by
    induction fields with
    | nil => rfl
    | cons field fields ih => simp [writeFields, writeField, ih]
  simp [write, each]

theorem opens_writeField {field : String × Value} (hname : isName field.1.toList = true)
    (level : Nat) :
    Opens (writeField level field) := by
  obtain ⟨c, more, eq, idle⟩ := opens_name hname
  exact ⟨c, _, by rw [writeField, eq]; rfl, idle⟩

/-- A named member is read back up to the delimiter. -/
theorem field_read {name : String} (hname : isName name.toList = true) (h : Reads depth v)
    (hfuel : 2 * (writeField level (name, v)).length ≤ fuel) (hbudget : 2 * depth < budget)
    (hrest : Delimited rest) :
    Scanner.field budget fuel (writeField level (name, v) ++ rest) = some ((name, v), rest) := by
  simp only [writeField, List.length_append, List.length_cons] at hfuel
  have taken : Scanner.value {} fuel (budget - 1) (v.write level ++ rest) = some (v, rest) :=
    h.value_of_le level (by omega) (by omega) hrest
  have colon : Delimited (':' :: ' ' :: (v.write level ++ rest)) := delimited_cons.mpr (by decide)
  have named := Scanner.identifier_append hname colon
  have space : ∀ c ∈ [' '], isBlank c = true := List.forall_mem_singleton.mpr rfl
  have behind :
      afterGap? .outside (' ' :: (v.write level ++ rest)) = some (v.write level ++ rest) :=
    (afterGap?_blanks space).trans ((h.opens level).afterGap? rest)
  simp [writeField, Scanner.field, named, Scanner.gap_eq_some colon.afterGap?, Scanner.expect,
    Scanner.gap_eq_some behind, taken]

/-- Fields are read back up to the closing mark. -/
theorem fields_read (hnames : ∀ field ∈ fields, isName field.1.toList = true)
    (hfields : ∀ field ∈ fields, Reads depth field.2)
    (hlisted : Listed ')' (writeField level) fields text)
    (hgap : afterGap? .outside start = some (text ++ rest)) (hfuel : 2 * text.length ≤ fuel)
    (hbudget : 2 * depth < budget) :
    Scanner.fields {} fuel budget true start = some (fields, ')' :: rest) :=
  (Scanner.loops_fields (by omega)).read (by decide) (by decide) hlisted
    (fun field hfield => opens_writeField (hnames field hfield) level)
    (fun field hfield _ _ hfuel hrest =>
      field_read (hnames field hfield) (hfields field hfield) hfuel hbudget hrest)
    hfuel hgap

theorem reads_record (hne : fields ≠ []) (hnames : ∀ field ∈ fields, isName field.1.toList = true)
    (hfields : ∀ field ∈ fields, Reads depth field.2) :
    Reads (depth + 1) (.record none fields) := by
  refine .of_mark (fun level => ?_) fun level fuel budget rest hfuel hbudget hrest => ?_
  · obtain ⟨more, eq⟩ := exists_enclosed_eq '(' ')' level (fields.map (writeField (level + 1)))
    exact ⟨'(', more, by rw [write_record, eq], by decide, by decide⟩
  · have opens : ∀ field ∈ fields, Opens (writeField (level + 1) field) :=
      fun field hfield => opens_writeField (hnames field hfield) (level + 1)
    rw [write_record] at hfuel ⊢
    obtain ⟨start, text, eq, gap, listed, shorter, nonempty⟩ :=
      enclosed_append '(' ')' (by decide) (by decide) opens level rest
    obtain ⟨first, hfirst, behind, shape, -⟩ := listed.first (by decide) (by decide) hne rest
    have named : namesMembers start = true := by
      have colon : Delimited (':' :: ' ' :: (first.2.write (level + 1) ++ behind)) :=
        delimited_cons.mpr (by decide)
      rw [namesMembers_of_gap gap (listed.afterGap? (by decide) opens rest), shape, writeField,
        List.append_assoc]
      exact namesMembers_name (hnames first hfirst) colon
    obtain ⟨fuel, rfl⟩ : ∃ k, fuel = k + 1 := ⟨fuel - 1, by omega⟩
    rw [eq, Scanner.value_group (nonempty hne)]
    exact Scanner.group_record (by omega) named
      (fields_read hnames hfields listed gap (by omega) (by omega))

end Kinds

/-- **Plain values are read back**, whatever follows them. -/
theorem Plain.reads {depth : Nat} {v : Value} (h : Plain depth v) : Reads depth v := by
  induction h with
  | word hname hword => exact reads_word hname hword
  | number hn => exact reads_number hn
  | text => exact reads_text
  | list hitems ih => exact reads_list ih
  | tuple hne hitems ih => exact reads_tuple hne ih
  | record hne hnames hfields ih => exact reads_record hne hnames ih

/-- **Documents are read back**: a plain value that is written as a text of its own is what the text
stands for. -/
theorem Plain.parse?_render {depth : Nat} {v : Value} (h : Plain depth v)
    (hdepth : 2 * depth ≤ nestingLimit) :
    Document.parse? v.render = some ⟨{}, v⟩ := by
  have opens := h.reads.opens 0
  have value :=
    h.reads.value 0 (2 * (v.write 0).length + 1) nestingLimit (by omega) hdepth Delimited.nil
  have gap := opens.afterGap? []
  have first : (v.write 0 ++ []).head? ≠ some '#' := opens.head?_ne (by decide) []
  rw [List.append_nil] at gap first value
  have noAttributes :
      Scanner.attributes (2 * (v.write 0).length + 2) {} (v.write 0) = some ({}, v.write 0) := by
    simp [Scanner.attributes, first]
  have done : Scanner.gap [] = some ((), []) := rfl
  simp [Document.parse?, render, Scanner.gap_eq_some gap, noAttributes, value, done]

end Value

end BiomeAtlas.Ron
