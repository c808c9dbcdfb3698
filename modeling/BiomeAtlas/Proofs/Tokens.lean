import Mathlib.Algebra.Group.Int.Defs
import Mathlib.Data.Option.Basic
import BiomeAtlas.Ron.Parser
import BiomeAtlas.Ron.Printer

/-! # Numbers are read back

A token of a written value ends where a delimiter stands: a comma, a colon, a closing mark, or
nothing at all (`Delimited`). This module reads such tokens in the order in which a value tries
them. A fixed word is not taken where more of a word follows it, or where the text begins with no
letter (`Scanner.acceptWord_eq_false`, `Scanner.acceptWord_of_head`); digits stand for the number
they are taken from (`digits?_toDigits`); and a whole number without a type, of at most 64 bits, is
read back as it was (`Scanner.range?_number`).

Scanners are functions on texts; the equations of `Scanner.bind_apply` and its neighbours run them
one after the other. -/

namespace BiomeAtlas.Ron

/-! ## Ends of tokens -/

/-- The characters that end a token of a written value. -/
def delimiters : List Char := [',', ':', ')', ']']

/-- The text is over, or goes on with a delimiter. -/
def Delimited (text : List Char) : Prop :=
  ∀ c ∈ text.head?, c ∈ delimiters

section Ends

variable {token rest : List Char} {inside : Char → Bool}

theorem Delimited.nil : Delimited [] :=
  nofun

theorem delimited_cons {c : Char} : Delimited (c :: rest) ↔ c ∈ delimiters := by
  simp [Delimited]

theorem eq_false_of_any {marks : List Char} (h : marks.any inside = false) {c : Char}
    (hc : c ∈ marks) : inside c = false := by
  simpa using List.any_eq_false.mp h c hc

/-- A run of characters inside a class ends with the token if no delimiter belongs to the class. -/
theorem Delimited.run_append (hrest : Delimited rest) (hin : ∀ c ∈ token, inside c = true)
    (hout : delimiters.any inside = false) :
    (token ++ rest).takeWhile inside = token ∧ (token ++ rest).dropWhile inside = rest := by
  rw [List.takeWhile_append_of_pos hin, List.dropWhile_append_of_pos hin]
  cases rest with
  | nil => simp
  | cons c rest => simp [eq_false_of_any hout (delimited_cons.mp hrest)]

end Ends

/-! ## Scanners in sequence -/

theorem guard_pos {p : Prop} [Decidable p] (h : p) : (guard p : Option Unit) = some () := by
  change (if p then pure () else failure) = _
  exact if_pos h

namespace Scanner

variable {α β : Type} (text : List Char)

@[simp] theorem bind_apply (first : Scanner α) (later : α → Scanner β) :
    (first >>= later) text = (first text).bind fun (a, rest) => later a rest := rfl

@[simp] theorem pure_apply (a : α) : (pure a : Scanner α) text = some (a, text) := rfl

@[simp] theorem map_apply (f : α → β) (scan : Scanner α) :
    (f <$> scan) text = (scan text).map fun (a, rest) => (f a, rest) := by
  cases read : scan text <;> simp [Functor.map, StateT.map, read]

@[simp] theorem get_apply : (get : Scanner (List Char)) text = some (text, text) := rfl

@[simp] theorem set_apply (rest : List Char) :
    (set rest : Scanner PUnit) text = some (.unit, rest) := rfl

@[simp] theorem peek?_apply : peek? text = some (text.head?, text) := rfl

@[simp] theorem guard_apply {p : Prop} [Decidable p] (h : p) :
    (guard p : Scanner Unit) text = some ((), text) := by
  change (if p then pure () else failure : Scanner Unit) text = _
  rw [if_pos h]
  rfl

end Scanner

/-! ## Fixed words -/

theorem afterPrefix?_eq_some_iff {fixed text after : List Char} :
    afterPrefix? fixed text = some after ↔ text = fixed ++ after := by
  induction fixed generalizing text with
  | nil => simp [afterPrefix?, eq_comm]
  | cons c fixed ih =>
    cases text with
    | nil => simp [afterPrefix?]
    | cons d text =>
      simp only [afterPrefix?, beq_iff_eq]
      split
      · next same => simp [ih, same]
      · next other => simp [Ne.symm other]

namespace Scanner

variable {text : List Char}

theorem acceptText_of_head {fixed : String} {c : Char} (hfixed : fixed.toList.head? = some c)
    (htext : text.head? ≠ some c) : acceptText fixed text = some (false, text) := by
  have missing : afterPrefix? fixed.toList text = none := by
    rw [Option.eq_none_iff_forall_ne_some]
    intro after found
    rw [afterPrefix?_eq_some_iff] at found
    exact htext (by simp [found, List.head?_append, hfixed])
  simp [acceptText, missing]

/-- A word is not taken if more of a word follows it wherever it stands. -/
theorem acceptWord_eq_false {word : String}
    (h : ∀ after, text = word.toList ++ after →
      after.head?.any Unicode.isIdentifierContinue = true) :
    acceptWord word text = some (false, text) := by
  unfold acceptWord
  cases found : afterPrefix? word.toList text with
  | none => rfl
  | some after => simp [h after (afterPrefix?_eq_some_iff.mp found)]

/-- A word that begins with a letter is not taken from a text that does not. -/
theorem acceptWord_of_head {word : String} (hword : word.toList.head?.any Char.isAlpha = true)
    (htext : ∀ c ∈ text.head?, c.isAlpha = false) : acceptWord word text = some (false, text) := by
  refine acceptWord_eq_false fun after eq => ?_
  cases letters : word.toList with
  | nil => simp [letters] at hword
  | cons c later =>
    have other : c.isAlpha = false := htext c (by simp [eq, letters])
    simp [letters, other] at hword

theorem acceptWords_eq_false {words : List String}
    (h : ∀ word ∈ words, acceptWord word text = some (false, text)) :
    acceptWords words text = some (false, text) := by
  induction words with
  | nil => rfl
  | cons word others ih =>
    simp [acceptWords, h word, ih fun word hword => h word (List.mem_cons_of_mem _ hword)]

end Scanner

/-! ## Digits -/

section Digits

variable {base n d : Nat}

theorem hexDigit?_digitChar (hd : d < 16) : Text.hexDigit? d.digitChar = some d := by
  have all : ∀ d : Fin 16, Text.hexDigit? d.val.digitChar = some d.val := by decide
  exact all ⟨d, hd⟩

theorem digitChar_ne_underscore (hd : d < 16) : d.digitChar ≠ '_' := by
  have all : ∀ d : Fin 16, d.val.digitChar ≠ '_' := by decide
  exact all ⟨d, hd⟩

theorem digits?_append (base : Nat) (first later : List Char) (n : Nat) :
    digits? base n (first ++ later) = (digits? base n first).bind fun n =>
      digits? base n later := by
  induction first generalizing n with
  | nil => simp [digits?]
  | cons c first ih =>
    simp only [List.cons_append, digits?]
    split
    · exact ih n
    · split
      · split
        · exact ih _
        · rfl
      · rfl

theorem digits?_digitChar (hbase : base ≤ 16) (hd : d < base) (n : Nat) :
    digits? base n [d.digitChar] = some (n * base + d) := by
  simp [digits?, hexDigit?_digitChar (Nat.lt_of_lt_of_le hd hbase),
    digitChar_ne_underscore (Nat.lt_of_lt_of_le hd hbase), hd]

/-- **Digits stand for the number they are taken from.** -/
theorem digits?_toDigits (hpos : 1 < base) (hbase : base ≤ 16) (n : Nat) :
    digits? base 0 (Nat.toDigits base n) = some n := by
  induction n using Nat.strongRecOn with
  | ind n ih =>
    -- The last digit is the remainder; the digits before it are those of the quotient.
    rw [Nat.toDigits_eq_if hpos]
    split
    · next small => simpa using digits?_digitChar hbase small 0
    · next large =>
      have less : n / base < n := Nat.div_lt_self (by omega) hpos
      rw [digits?_append, ih _ less, Option.bind_some,
        digits?_digitChar hbase (Nat.mod_lt n (by omega)),
        Nat.div_add_mod']

/-- What is written of a number is made of digits. -/
theorem exists_of_mem_toDigits (hpos : 1 < base) {c : Char} (hc : c ∈ Nat.toDigits base n) :
    ∃ d < base, c = d.digitChar := by
  induction n using Nat.strongRecOn with
  | ind n ih =>
    rw [Nat.toDigits_eq_if hpos] at hc
    split at hc
    · next small => exact ⟨n, small, List.mem_singleton.mp hc⟩
    · next large =>
      rcases List.mem_append.mp hc with first | last
      · exact ih _ (Nat.div_lt_self (by omega) hpos) first
      · exact ⟨n % base, Nat.mod_lt n (by omega), List.mem_singleton.mp last⟩

end Digits

/-! ## Numbers -/

section Numbers

variable {rest : List Char} {n : Nat}

theorem isDigit_of_mem_toDigits {c : Char} (hc : c ∈ Nat.toDigits 10 n) : c.isDigit = true :=
  Nat.isDigit_of_mem_toDigits (by decide) (by decide) hc

theorem isIntChar_of_isDigit {c : Char} (hc : c.isDigit = true) : isIntChar c = true := by
  simp only [Char.isDigit, ge_iff_le, Bool.and_eq_true, decide_eq_true_eq] at hc
  have digit : '0' ≤ c ∧ c ≤ '9' := hc
  simp [isIntChar, Text.hexDigit?, digit]

theorem isDecimalChar_of_isDigit {c : Char} (hc : c.isDigit = true) : isDecimalChar c = true := by
  simp [isDecimalChar, hc]

theorem toDigits_append (n : Nat) (rest : List Char) :
    ∃ c more, Nat.toDigits 10 n ++ rest = c :: more ∧ c.isDigit = true := by
  cases digits : Nat.toDigits 10 n with
  | nil => exact absurd digits Nat.toDigits_ne_nil
  | cons c later =>
    exact ⟨c, later ++ rest, rfl, isDigit_of_mem_toDigits (n := n) (by simp [digits])⟩

/-- A decimal number carries no mark of another base: its second character is a digit or a
delimiter. -/
theorem splitBase_append (hrest : Delimited rest) :
    splitBase (Nat.toDigits 10 n ++ rest) = (10, Nat.toDigits 10 n ++ rest) := by
  have second {c d : Char} {more : List Char} (h : Nat.toDigits 10 n ++ rest = c :: d :: more) :
      d.isDigit = true ∨ d ∈ delimiters := by
    cases digits : Nat.toDigits 10 n with
    | nil => exact absurd digits Nat.toDigits_ne_nil
    | cons first later =>
      cases later with
      | nil =>
        simp only [digits, List.cons_append, List.nil_append, List.cons.injEq] at h
        exact .inr (delimited_cons.mp (h.2 ▸ hrest))
      | cons next later =>
        simp only [digits, List.cons_append, List.cons.injEq] at h
        exact .inl (isDigit_of_mem_toDigits (n := n) (by simp [digits, ← h.2.1]))
  unfold splitBase
  split
  · next text eq => exact absurd (second eq) (by decide)
  · next text eq => exact absurd (second eq) (by decide)
  · next text eq => exact absurd (second eq) (by decide)
  · rfl

theorem natural?_append (hrest : Delimited rest) :
    natural? (Nat.toDigits 10 n ++ rest) = some (n, rest) := by
  have digits : ∀ c ∈ Nat.toDigits 10 n, isIntChar c = true :=
    fun c hc => isIntChar_of_isDigit (isDigit_of_mem_toDigits hc)
  obtain ⟨run, after⟩ := hrest.run_append digits (by decide)
  have value : digits? 10 0 (Nat.toDigits 10 n) = some n :=
    digits?_toDigits (by decide) (by decide) n
  have noMark : (Nat.toDigits 10 n).head? ≠ some '_' := by
    intro mark
    exact absurd (isDigit_of_mem_toDigits (List.mem_of_head? mark)) (by decide)
  simp [natural?, splitBase_append hrest, run, after, Nat.toDigits_ne_nil, noMark, value]

theorem decimalRun_append (hrest : Delimited rest) {digits : List Char}
    (hdigits : ∀ c ∈ digits, c.isDigit = true) :
    decimalRun (digits ++ rest) = (digits, rest) := by
  induction digits with
  | nil =>
    cases rest with
    | nil => rfl
    | cons c rest =>
      have none : delimiters.any isDecimalChar = false := by decide
      have outside := eq_false_of_any none (delimited_cons.mp hrest)
      have point : c ≠ '.' := by rintro rfl; exact absurd outside (by decide)
      unfold decimalRun
      simp [outside, point]
  | cons c digits ih =>
    have digit : c.isDigit = true := hdigits c (by simp)
    have point : c ≠ '.' := by rintro rfl; exact absurd digit (by decide)
    simp [decimalRun, point, isDecimalChar_of_isDigit digit,
      ih fun c hc => hdigits c (by simp [hc])]

theorem suffix?_eq_none (hrest : Delimited rest) : suffix? rest = none := by
  have letters : ∀ type ∈ IntType.all, type.name.toList.head?.any Char.isAlpha = true := by decide
  have noLetters : delimiters.any Char.isAlpha = false := by decide
  rw [suffix?, List.findSome?_eq_none_iff]
  intro type htype
  simp [Scanner.acceptWord_of_head (letters type htype) fun c hc =>
    eq_false_of_any noLetters (hrest c hc)]

theorem toList_repr (n : Int) :
    n.repr.toList = (if n < 0 then ['-'] else []) ++ Nat.toDigits 10 n.natAbs := by
  rw [Int.repr_eq_if]
  by_cases negative : n < 0
  · have abs : (-n).toNat = n.natAbs := by omega
    simp [negative, Int.not_le.mpr negative, abs, Nat.repr_eq_ofList_toDigits]
  · have abs : n.toNat = n.natAbs := by omega
    simp [negative, Int.not_lt.mp negative, abs, Nat.repr_eq_ofList_toDigits]

theorem splitSign_append (n : Int) (rest : List Char) :
    Text.splitSign (n.repr.toList ++ rest) =
      (decide (n < 0), Nat.toDigits 10 n.natAbs ++ rest) := by
  rw [toList_repr]
  by_cases negative : n < 0
  · simp [negative, Text.splitSign]
  · obtain ⟨c, more, eq, digit⟩ := toDigits_append n.natAbs rest
    have plus : c ≠ '+' := by rintro rfl; exact absurd digit (by decide)
    have minus : c ≠ '-' := by rintro rfl; exact absurd digit (by decide)
    simp [negative, eq, Text.splitSign, plus, minus]

/-- A number fits a type of 64 bits, which a number without a type has to. -/
def FitsWord (n : Int) : Prop :=
  -(2 ^ 63) ≤ n ∧ n < 2 ^ 64

theorem signed_natAbs (n : Int) : signed (decide (n < 0)) n.natAbs = n := by
  by_cases negative : n < 0 <;> simp only [signed, negative, decide_true, decide_false, if_true,
    Bool.false_eq_true, if_false] <;> omega

theorem natCast_one_shiftLeft (k : Nat) : ((1 <<< k : Nat) : Int) = 2 ^ k := by
  rw [Nat.one_shiftLeft, Int.natCast_pow]
  rfl

theorem IntType.contains_of_signed {type : IntType} (hsigned : type.isSigned = true) {n : Int}
    (hlow : -(2 ^ (type.bits - 1)) ≤ n) (hhigh : n < 2 ^ (type.bits - 1)) :
    type.contains n = true := by
  rw [contains, if_pos hsigned, natCast_one_shiftLeft, decide_eq_true hlow, decide_eq_true hhigh]
  rfl

theorem IntType.contains_of_unsigned {type : IntType} (hunsigned : type.isSigned = false) {n : Int}
    (hlow : 0 ≤ n) (hhigh : n < 2 ^ type.bits) : type.contains n = true := by
  rw [contains, if_neg (by simp [hunsigned]), natCast_one_shiftLeft, decide_eq_true hlow,
    decide_eq_true hhigh]
  rfl

theorem FitsWord.contains {n : Int} (h : FitsWord n) :
    (if decide (n < 0) then IntType.i64 else IntType.u64).contains n = true := by
  obtain ⟨low, high⟩ := h
  split
  · next negative =>
    have below : n < 0 := of_decide_eq_true negative
    have small : n < 2 ^ 63 := by omega
    exact IntType.contains_of_signed rfl low small
  · next natural =>
    have above : 0 ≤ n := by simpa using natural
    exact IntType.contains_of_unsigned rfl above high

theorem integer?_append {n : Int} (hn : FitsWord n) (hrest : Delimited rest) :
    integer? (n.repr.toList ++ rest) = some (.integer n none, rest) := by
  unfold integer?
  rw [splitSign_append]
  dsimp only
  rw [natural?_append hrest, Option.bind_eq_bind, Option.bind_some]
  dsimp only
  rw [suffix?_eq_none hrest, signed_natAbs]
  dsimp only
  rw [guard_pos hn.contains]
  rfl

/-- The digits of a whole number are all that could belong to a number of the other kind. -/
theorem looksDecimal_append (n : Int) (hrest : Delimited rest) :
    looksDecimal (n.repr.toList ++ rest) = false := by
  have digits : ∀ c ∈ Nat.toDigits 10 n.natAbs, c.isDigit = true :=
    fun c hc => isDigit_of_mem_toDigits hc
  have run := (hrest.run_append (fun c hc => isIntChar_of_isDigit (digits c hc)) (by decide)).1
  simp [looksDecimal, splitSign_append, run, decimalRun_append hrest digits]

theorem Scanner.number_append {n : Int} (hn : FitsWord n) (hrest : Delimited rest) :
    Scanner.number (n.repr.toList ++ rest) = some (.integer n none, rest) := by
  simp [Scanner.number, looksDecimal_append n hrest, integer?_append hn hrest]

/-- Where no number begins, no range is taken. -/
theorem Scanner.range?_eq_none {text : List Char}
    (hwords : ∀ word ∈ specials, acceptWord word text = some (false, text))
    (hopens : opensNumber text = false) (hpoint : text.head? ≠ some '.') :
    range? text = some (none, text) := by
  have noRange : acceptText ".." text = some (false, text) :=
    acceptText_of_head (c := '.') (by decide) hpoint
  simp [range?, number?, acceptWords_eq_false hwords, hopens, noRange]

/-- A number begins with a minus or with a digit. -/
theorem repr_append (n : Int) (rest : List Char) :
    ∃ c more, n.repr.toList ++ rest = c :: more ∧ (c = '-' ∨ c.isDigit = true) := by
  rw [toList_repr]
  split
  · exact ⟨'-', _, rfl, .inl rfl⟩
  · obtain ⟨c, more, eq, digit⟩ := toDigits_append n.natAbs rest
    exact ⟨c, more, eq, .inr digit⟩

theorem isDigit_iff {c : Char} : c.isDigit = true ↔ 48 ≤ c.toNat ∧ c.toNat ≤ 57 := by
  change (decide (c.val ≥ 48) && decide (c.val ≤ 57)) = true ↔ _
  simp [UInt32.le_iff_toNat_le]

theorem isAlpha_iff {c : Char} :
    c.isAlpha = true ↔ 65 ≤ c.toNat ∧ c.toNat ≤ 90 ∨ 97 ≤ c.toNat ∧ c.toNat ≤ 122 := by
  change (decide (c.val ≥ 65 ∧ c.val ≤ 90) || decide (c.val ≥ 97) && decide (c.val ≤ 122)) = true ↔
    _
  simp [UInt32.le_iff_toNat_le]

theorem isAlpha_of_isDigit {c : Char} (hc : c.isDigit = true) : c.isAlpha = false := by
  rw [isDigit_iff] at hc
  rw [Bool.eq_false_iff, ne_eq, isAlpha_iff]
  omega

theorem isAlpha_of_sign {c : Char} (hc : c = '-' ∨ c.isDigit = true) : c.isAlpha = false := by
  rcases hc with rfl | digit
  · rfl
  · exact isAlpha_of_isDigit digit

theorem Scanner.number?_number {n : Int} (hn : FitsWord n) (hrest : Delimited rest) :
    number? (n.repr.toList ++ rest) = some (some (.integer n none), rest) := by
  have read := number_append hn hrest
  obtain ⟨c, more, eq, first⟩ := repr_append n rest
  rw [eq] at read ⊢
  have noLetter := isAlpha_of_sign first
  have letters : ∀ word ∈ specials, word.toList.head?.any Char.isAlpha = true := by decide
  have noWord : acceptWords specials (c :: more) = some (false, c :: more) :=
    acceptWords_eq_false fun word hword =>
      acceptWord_of_head (letters word hword) (by simpa using noLetter)
  have noByte : c ≠ 'b' := by rintro rfl; exact absurd noLetter (by decide)
  have opens : opensNumber (c :: more) = true := by
    rcases first with rfl | digit
    · simp [opensNumber]
    · have point : c ≠ '.' := by rintro rfl; exact absurd digit (by decide)
      simp [opensNumber, point, noByte, digit]
  simp [number?, noWord, opens, noByte, read]

/-- **A number is read back** as it was, without a type. -/
theorem Scanner.range?_number {n : Int} (hn : FitsWord n) (hrest : Delimited rest) :
    range? (n.repr.toList ++ rest) = some (some (.number (.integer n none)), rest) := by
  have noRange : acceptText ".." rest = some (false, rest) :=
    acceptText_of_head (c := '.') (by decide) fun point => absurd (hrest '.' point) (by decide)
  simp [range?, noRange, number?_number hn hrest]

end Numbers

end BiomeAtlas.Ron
