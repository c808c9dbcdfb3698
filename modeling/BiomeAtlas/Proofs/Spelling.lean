import BiomeAtlas.Proofs.Tokens

/-! # Names and texts are read back

Names of fields and words are plain (`isName`): letters, digits and underscores. So a name ends
where the delimiter stands (`name_append`), no mark of a literal can be read into it
(`name_append_not_prefix`), and of all fixed words only the name itself is taken
(`Scanner.acceptWord_name`); what is left is the name (`identifier?_append`).

A text may hold any characters. Each of them is written as itself, as an escape of two characters,
or by its code point, and reading takes exactly what was written of it (`content_escaped`); so a
whole text is read back (`Scanner.text_quote`). -/

namespace BiomeAtlas.Ron

/-! ## Names -/

/-- Whether a text is a plain name: letters, digits and underscores, the first of them no digit. -/
def isName : List Char → Bool
  | [] => false
  | c :: later => (c.isAlpha || c == '_') && later.all fun c => c.isAlphanum || c == '_'

section Names

variable {name rest : List Char}

theorem ascii_of_isAlphanum {c : Char} (hc : c.isAlphanum = true) : c.toNat < 128 := by
  rcases Bool.or_eq_true_iff.mp hc with letter | digit
  · have := isAlpha_iff.mp letter
    omega
  · have := isDigit_iff.mp digit
    omega

theorem isIdentifierContinue_of_isAlphanum {c : Char} (hc : c.isAlphanum = true ∨ c = '_') :
    Unicode.isIdentifierContinue c = true := by
  rcases hc with letter | rfl
  · simp [Unicode.isIdentifierContinue, ascii_of_isAlphanum letter, letter]
  · rfl

theorem isIdentifierContinue_of_mem (hname : isName name = true) :
    ∀ c ∈ name, Unicode.isIdentifierContinue c = true := by
  cases name with
  | nil => simp
  | cons first later =>
    simp only [isName, Bool.and_eq_true, Bool.or_eq_true, beq_iff_eq, List.all_eq_true] at hname
    rintro c (_ | ⟨_, hc⟩)
    · refine isIdentifierContinue_of_isAlphanum (hname.1.imp_left fun letter => ?_)
      simp [Char.isAlphanum, letter]
    · exact isIdentifierContinue_of_isAlphanum (hname.2 c hc)

/-- A name ends where the delimiter stands. -/
theorem name_append (hname : isName name = true) (hrest : Delimited rest) :
    (name ++ rest).takeWhile Unicode.isIdentifierContinue = name ∧
      (name ++ rest).dropWhile Unicode.isIdentifierContinue = rest :=
  hrest.run_append (isIdentifierContinue_of_mem hname) (by decide)

/-- A name and what follows it do not begin with a mark that has a sign in it. -/
theorem name_append_not_prefix (hname : isName name = true) (hrest : Delimited rest)
    {mark : List Char} (hmark : ((mark.dropWhile Unicode.isIdentifierContinue).head?.any fun c =>
      !delimiters.contains c) = true) :
    ¬ mark <+: name ++ rest := by
  rintro ⟨after, eq⟩
  have rest_eq := (name_append hname hrest).2
  rw [← eq, List.dropWhile_append] at rest_eq
  cases signs : mark.dropWhile Unicode.isIdentifierContinue with
  | nil => simp [signs] at hmark
  | cons sign more =>
    simp only [signs, List.isEmpty_cons, Bool.false_eq_true, if_false, List.cons_append] at rest_eq
    rw [← rest_eq, delimited_cons] at hrest
    simp [signs, hrest] at hmark

theorem first_of_isName (hname : isName name = true) :
    ∃ c later, name = c :: later ∧ (c = '_' ∨ c.isAlpha = true) := by
  cases name with
  | nil => simp [isName] at hname
  | cons c later =>
    simp only [isName, Bool.and_eq_true, Bool.or_eq_true, beq_iff_eq] at hname
    exact ⟨c, later, rfl, hname.1.symm⟩

theorem isNameStart_of_isAlpha {c : Char} (hc : c = '_' ∨ c.isAlpha = true) :
    isNameStart c = true := by
  rcases hc with rfl | letter
  · rfl
  · have ascii : c.toNat < 128 := ascii_of_isAlphanum (by simp [Char.isAlphanum, letter])
    simp [isNameStart, Unicode.isIdentifierStart, ascii, letter]

theorem isNameStart_of_isDigit {c : Char} (hc : c.isDigit = true) : isNameStart c = false := by
  have underscore : c ≠ '_' := by rintro rfl; exact absurd hc (by decide)
  have ascii : c.toNat < 128 := ascii_of_isAlphanum (by simp [Char.isAlphanum, hc])
  simp [isNameStart, Unicode.isIdentifierStart, underscore, ascii, isAlpha_of_isDigit hc]

/-- **A name is read back** up to the delimiter. -/
theorem identifier?_append (hname : isName name = true) (hrest : Delimited rest) :
    identifier? (name ++ rest) = some (String.ofList name, rest) := by
  have signs : ∀ mark ∈ literalMarks,
      ((mark.toList.dropWhile Unicode.isIdentifierContinue).head?.any fun c =>
        !delimiters.contains c) = true := by
    decide
  have noMark : literalMarks.any (fun mark => mark.toList.isPrefixOf (name ++ rest)) = false := by
    rw [List.any_eq_false]
    intro mark hmark opens
    exact name_append_not_prefix hname hrest (signs mark hmark)
      (List.isPrefixOf_iff_prefix.mp opens)
  have raw : ¬ ['r', '#'] <+: name ++ rest := name_append_not_prefix hname hrest (by decide)
  have run := name_append hname hrest
  obtain ⟨c, later, rfl, letter⟩ := first_of_isName hname
  have inside : Unicode.isIdentifierContinue c = true :=
    isIdentifierContinue_of_mem hname c (by simp)
  simp only [List.cons_append, List.takeWhile_cons_of_pos inside, List.dropWhile_cons_of_pos inside,
    List.cons.injEq, true_and] at run noMark raw ⊢
  unfold identifier?
  rw [noMark]
  split
  · contradiction
  · split
    · next text eq => exact absurd ⟨text, eq.symm⟩ raw
    · next first text _ eq =>
      obtain ⟨rfl, rfl⟩ := List.cons.inj eq
      simp [isNameStart_of_isAlpha letter, run]
    · contradiction

theorem Scanner.identifier_append (hname : isName name = true) (hrest : Delimited rest) :
    identifier (name ++ rest) = some (String.ofList name, rest) := by
  have ended : rest.head?.any isRawContinue = false := by
    have outside : delimiters.any isRawContinue = false := by decide
    cases rest with
    | nil => rfl
    | cons c rest => simpa using eq_false_of_any outside (delimited_cons.mp hrest)
  simp [identifier, identifier?_append hname hrest, ended]

/-- Of all words, only the name itself is taken. -/
theorem Scanner.acceptWord_name (hname : isName name = true) (hrest : Delimited rest)
    {word : String} (hword : ∀ c ∈ word.toList, Unicode.isIdentifierContinue c = true)
    (hne : name ≠ word.toList) :
    acceptWord word (name ++ rest) = some (false, name ++ rest) := by
  refine acceptWord_eq_false fun after eq => ?_
  have run := (name_append hname hrest).1
  rw [eq, List.takeWhile_append_of_pos hword] at run
  cases after with
  | nil => exact absurd (by simpa using run.symm) hne
  | cons c after =>
    cases goesOn : Unicode.isIdentifierContinue c with
    | true => simp [goesOn]
    | false => exact absurd (by simpa [goesOn] using run.symm) hne

/-- A name is not taken for a number, not even for a byte. -/
theorem opensNumber_name (hname : isName name = true) (hrest : Delimited rest) :
    opensNumber (name ++ rest) = false := by
  have noByte : ¬ ['b', '\''] <+: name ++ rest := name_append_not_prefix hname hrest (by decide)
  obtain ⟨c, later, rfl, letter⟩ := first_of_isName hname
  have noSign (sign : Char) (hsign : isNameStart sign = false) : c ≠ sign := by
    rintro rfl
    simp [isNameStart_of_isAlpha letter] at hsign
  have noDigit : c.isDigit = false := by
    rcases letter with rfl | letter
    · rfl
    · cases digit : c.isDigit with
      | false => rfl
      | true => simp [isAlpha_of_isDigit digit] at letter
  unfold opensNumber
  split
  · rfl
  · next text eq => exact absurd ⟨text, eq.symm⟩ noByte
  · next first text _ _ eq =>
    obtain ⟨rfl, rfl⟩ := List.cons.inj eq
    have plus := noSign '+' (by decide)
    have minus := noSign '-' (by decide)
    have point := noSign '.' (by decide)
    simp [noDigit, plus, minus, point]
  · contradiction

end Names

/-! ## Texts -/

/-- A code point has at most six digits, and the brace ends them. -/
theorem codePoint?_append (c : Char) (rest : List Char) :
    codePoint? (hexDigits c.toNat ++ '\x7d' :: rest) = some (c, rest) := by
  have digits : ∀ d ∈ hexDigits c.toNat, (Text.hexDigit? d).isSome = true ∧
      (d != '\x7d') = true := by
    intro d hd
    obtain ⟨k, small, rfl⟩ := exists_of_mem_toDigits (by decide) hd
    have brace : ∀ k : Fin 16, (k.val.digitChar != '\x7d') = true := by decide
    exact ⟨by simp [hexDigit?_digitChar small], brace ⟨k, small⟩⟩
  have few : (hexDigits c.toNat).length ≤ 6 := by
    refine (Nat.length_toDigits_le_iff (by decide) (by decide)).mpr ?_
    have valid : c.toNat.isValidChar := c.valid
    simp only [Nat.isValidChar] at valid
    omega
  have front : ((hexDigits c.toNat ++ '\x7d' :: rest).take 6).takeWhile (· != '\x7d') =
      hexDigits c.toNat := by
    rw [List.take_append, List.take_of_length_le few,
      List.takeWhile_append_of_pos fun d hd => (digits d hd).2]
    cases 6 - (hexDigits c.toNat).length <;> simp
  have nonempty : hexDigits c.toNat ≠ [] := Nat.toDigits_ne_nil
  have all : (hexDigits c.toNat).all (fun d => (Text.hexDigit? d).isSome) = true :=
    List.all_eq_true.mpr fun d hd => (digits d hd).1
  have read : digits? 16 0 (hexDigits c.toNat) = some c.toNat :=
    digits?_toDigits (by decide) (by decide) _
  have valid : c.toNat.isValidChar := c.valid
  simp only [codePoint?, front, all, read, List.drop_left]
  simp [guard_pos, valid, nonempty]

/-- What is read of a text behind its opening quote. -/
def content : Nat → List Char → Except TextFault (List Char × List Char) :=
  quoted (fun c => [c]) fun text => (escape? true text).map fun (c, rest) => ([c], rest)

theorem content_cons {c : Char} (hquote : c ≠ '"') (hbackslash : c ≠ '\\') (bound : Nat)
    (rest : List Char) :
    content (bound + 1) (c :: rest) = (content bound rest).map fun (later, rest) =>
      (c :: later, rest) := by
  rw [content, quoted]
  · rfl
  · exact hquote
  · exact hbackslash

theorem content_escape {c : Char} {text rest : List Char} (hline : afterLineEnd? text = none)
    (hescape : escape? true text = some (c, rest)) (bound : Nat) :
    content (bound + 1) ('\\' :: text) = (content bound rest).map fun (later, rest) =>
      (c :: later, rest) := by
  simp [content, quoted, hline, hescape]

/-- An escaped character is read back as the first one of a text. -/
theorem content_escaped (c : Char) (bound : Nat) (rest : List Char) :
    content (bound + 1) (escaped c ++ rest) = (content bound rest).map fun (later, rest) =>
      (c :: later, rest) := by
  unfold escaped
  split
  case h_8 backslash quoteMark _ =>
    split
    · exact content_cons quoteMark backslash bound rest
    · have shape : ['\\', 'u', '\x7b'] ++ hexDigits c.toNat ++ ['\x7d'] ++ rest =
          '\\' :: 'u' :: '\x7b' :: (hexDigits c.toNat ++ '\x7d' :: rest) := by simp
      have read :
          escape? true ('u' :: '\x7b' :: (hexDigits c.toNat ++ '\x7d' :: rest)) = some (c, rest) :=
        codePoint?_append c rest
      rw [shape]
      exact content_escape rfl read bound
  -- The other characters have escapes of their own.
  all_goals exact content_escape rfl rfl bound

theorem content_flatMap (text rest : List Char) {bound : Nat} (hbound : text.length < bound) :
    content bound (text.flatMap escaped ++ '"' :: rest) = .ok (text, rest) := by
  induction text generalizing bound with
  | nil =>
    obtain ⟨bound, rfl⟩ : ∃ k, bound = k + 1 := ⟨bound - 1, by omega⟩
    rfl
  | cons c text ih =>
    obtain ⟨bound, rfl⟩ : ∃ k, bound = k + 1 := ⟨bound - 1, by omega⟩
    rw [List.flatMap_cons, List.append_assoc, content_escaped, ih (by simpa using hbound)]
    rfl

theorem escaped_ne_nil (c : Char) : escaped c ≠ [] := by
  unfold escaped
  split
  all_goals try simp
  split <;> simp

theorem length_le_flatMap_escaped (text : List Char) :
    text.length ≤ (text.flatMap escaped).length := by
  induction text with
  | nil => simp
  | cons c text ih =>
    have marks : 0 < (escaped c).length := List.length_pos_iff.mpr (escaped_ne_nil c)
    rw [List.flatMap_cons, List.length_append, List.length_cons]
    omega

/-- **A text is read back** from between its quotes, whatever its characters are. -/
theorem Scanner.text_quote (text : String) (rest : List Char) :
    Scanner.text (quote text ++ rest) = some (text, rest) := by
  have opening : quote text ++ rest = '"' :: (text.toList.flatMap escaped ++ '"' :: rest) := by
    simp [quote]
  have enough : text.toList.length < (text.toList.flatMap escaped ++ '"' :: rest).length := by
    have fewer := length_le_flatMap_escaped text.toList
    rw [List.length_append, List.length_cons]
    omega
  have read : characters (quote text ++ rest) = .ok (text.toList, rest) := by
    rw [opening]
    exact content_flatMap text.toList rest enough
  simp only [Scanner.text, read]
  change some (String.ofList text.toList, rest) = _
  rw [String.ofList_toList]

end BiomeAtlas.Ron
