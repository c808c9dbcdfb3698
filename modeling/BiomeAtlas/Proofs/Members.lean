import BiomeAtlas.Proofs.Spelling

/-! # Members are read back

The members of a list, a tuple or a record are written in two layouts: on lines of their own, or all
on one line. Both have one shape (`Listed`): commas between the members, blanks behind the commas,
and perhaps a comma behind the last member.

Items and fields are read by two scanners that go around in the same way (`Loops`). So whatever is
true of one member is carried to all of them once (`Loops.read`): if each member is read back up to
a delimiter, then so are the members up to the closing mark. The number of steps is bounded by the
length of what is written, twice. -/

namespace BiomeAtlas.Ron

/-! ## Gaps -/

/-- The characters that begin no value: they belong to a gap, to an attribute, or end what stands
before them. -/
def idleMarks : List Char :=
  [' ', '\t', '\n', '\r', '\x0b', '\x0c', '\u0085', '\u200e', '\u200f', '\u2028', '\u2029', '/',
    '#'] ++ delimiters

/-- A text that begins like a value. -/
def Opens (text : List Char) : Prop :=
  ∃ c more, text = c :: more ∧ c ∉ idleMarks

theorem not_mem_idleMarks (inside : Char → Bool) {c : Char} (hc : inside c = true)
    (hout : idleMarks.any inside = false) : c ∉ idleMarks := by
  intro idle
  simp [eq_false_of_any hout idle] at hc

theorem Opens.head?_ne {text : List Char} (h : Opens text) {c : Char} (hc : c ∈ idleMarks)
    (rest : List Char) :
    (text ++ rest).head? ≠ some c := by
  obtain ⟨d, more, rfl, hd⟩ := h
  rintro ⟨rfl⟩
  exact hd hc

section Gaps

variable {c : Char} {text rest : List Char}

/-- Outside comments only a slash needs a second character. -/
theorem afterGap?_cons (hslash : c ≠ '/') :
    afterGap? .outside (c :: text) =
      if isBlank c then afterGap? .outside text else some (c :: text) := by
  conv =>
    lhs
    unfold afterGap?
  split
  · next eq => cases eq
  · next eq => exact absurd (List.cons.inj eq).1 hslash
  · next eq => exact absurd (List.cons.inj eq).1 hslash
  · next eq =>
    obtain ⟨rfl, rfl⟩ := List.cons.inj eq
    rw [beq_false_of_ne hslash, if_neg Bool.false_ne_true]
  all_goals contradiction

theorem afterGap?_of_not_isBlank (hblank : isBlank c = false) (hslash : c ≠ '/') :
    afterGap? .outside (c :: text) = some (c :: text) := by
  rw [afterGap?_cons hslash, hblank, if_neg Bool.false_ne_true]

theorem Delimited.afterGap? (hrest : Delimited rest) : afterGap? .outside rest = some rest := by
  cases rest with
  | nil => rfl
  | cons c rest =>
    have noBlanks : delimiters.any isBlank = false := by decide
    have slash : c ≠ '/' := by rintro rfl; exact absurd (delimited_cons.mp hrest) (by decide)
    exact afterGap?_of_not_isBlank (eq_false_of_any noBlanks (delimited_cons.mp hrest)) slash

/-- What begins like a value is no gap. -/
theorem Opens.afterGap? (h : Opens text) (rest : List Char) :
    afterGap? .outside (text ++ rest) = some (text ++ rest) := by
  obtain ⟨c, more, rfl, hc⟩ := h
  simp only [idleMarks, delimiters, List.cons_append, List.nil_append, List.mem_cons, not_or] at hc
  have blank : isBlank c = false := by simp [isBlank, hc]
  exact afterGap?_of_not_isBlank blank (by simp [hc])

theorem afterGap?_blanks {blanks : List Char} (hblanks : ∀ c ∈ blanks, isBlank c = true) :
    afterGap? .outside (blanks ++ text) = afterGap? .outside text := by
  induction blanks with
  | nil => rfl
  | cons c blanks ih =>
    have blank : isBlank c = true := hblanks c (by simp)
    have slash : c ≠ '/' := by rintro rfl; exact absurd blank (by decide)
    rw [List.cons_append, afterGap?_cons slash, if_pos blank,
      ih fun c hc => hblanks c (List.mem_cons_of_mem _ hc)]

theorem Scanner.gap_eq_some (htext : afterGap? .outside text = some rest) :
    gap text = some ((), rest) := by
  simp [gap, htext]

end Gaps

/-! ## Members -/

section Members

variable {β : Type} {closing : Char} {write : β → List Char} {members : List β}
  {text rest : List Char}

/-- How members are written up to the closing mark: with commas between them, blanks behind the
commas, and perhaps a comma behind the last one. -/
inductive Listed (closing : Char) (write : β → List Char) : List β → List Char → Prop
  | nil : Listed closing write [] [closing]
  | last (member : β) : Listed closing write [member] (write member ++ [closing])
  | cons (member : β) {blanks members text} (hblanks : ∀ c ∈ blanks, isBlank c = true)
      (later : Listed closing write members text) :
      Listed closing write (member :: members) (write member ++ ',' :: (blanks ++ text))

/-- What a scanner of members does with the closing mark, and with a member. -/
structure Loops (closing : Char) (member : Nat → Scanner β)
    (loop : Nat → Bool → Scanner (List β)) : Prop where
  /-- It stops in front of the closing mark. -/
  stop {start rest} (fuel : Nat) (separated : Bool)
    (hstart : afterGap? .outside start = some (closing :: rest)) :
    loop (fuel + 1) separated start = some ([], closing :: rest)
  /-- It takes a member, and what may separate it from the next one, before it goes on. -/
  step {start text behind next rest first later separated fuel}
    (hstart : afterGap? .outside start = some text)
    (hclosing : text.head? ≠ some closing) (hfirst : member fuel text = some (first, behind))
    (hcomma : Scanner.comma behind = some (separated, next))
    (hlater : loop fuel separated next = some (later, rest)) :
    loop (fuel + 1) true start = some (first :: later, rest)

theorem Scanner.comma_cons {blanks : List Char} (hblanks : ∀ c ∈ blanks, isBlank c = true)
    (htext : afterGap? .outside text = some text) :
    Scanner.comma (',' :: (blanks ++ text)) = some (true, text) := by
  have skip : gap (',' :: (blanks ++ text)) = some ((), ',' :: (blanks ++ text)) :=
    gap_eq_some (afterGap?_of_not_isBlank (by decide) (by decide))
  have skip' : gap (blanks ++ text) = some ((), text) :=
    gap_eq_some ((afterGap?_blanks hblanks).trans htext)
  simp [comma, skip, accept, skip']

theorem Scanner.comma_closing {c : Char} (hc : c ∈ delimiters) (hcomma : c ≠ ',') :
    Scanner.comma (c :: rest) = some (false, c :: rest) := by
  have skip : gap (c :: rest) = some ((), c :: rest) :=
    gap_eq_some (delimited_cons.mpr hc).afterGap?
  simp [comma, skip, accept, hcomma]

/-- What is written of members begins with the first one, or with the closing mark. -/
theorem Listed.afterGap? (h : Listed closing write members text) (hclosing : closing ∈ delimiters)
    (hopens : ∀ member ∈ members, Opens (write member)) (rest : List Char) :
    afterGap? .outside (text ++ rest) = some (text ++ rest) := by
  cases h with
  | nil => exact (delimited_cons.mpr hclosing).afterGap?
  | last member | cons member =>
    rw [List.append_assoc]
    exact (hopens member (by simp)).afterGap? _

/-- **Members are read back** up to the closing mark, if each of them is. -/
theorem Loops.read {member : Nat → Scanner β} {loop : Nat → Bool → Scanner (List β)}
    (h : Loops closing member loop) (hclosing : closing ∈ delimiters) (hcomma : closing ≠ ',')
    (hlisted : Listed closing write members text)
    (hopens : ∀ member ∈ members, Opens (write member))
    (hread : ∀ first ∈ members, ∀ fuel rest, 2 * (write first).length ≤ fuel → Delimited rest →
      member fuel (write first ++ rest) = some (first, rest))
    {fuel : Nat} (hfuel : 2 * text.length ≤ fuel) {start : List Char}
    (hstart : afterGap? .outside start = some (text ++ rest)) :
    loop fuel true start = some (members, closing :: rest) := by
  have noClosing {first : β} (hfirst : Opens (write first)) (rest : List Char) :=
    hfirst.head?_ne (List.mem_append_right _ hclosing) rest
  induction hlisted generalizing fuel start with
  | nil =>
    obtain ⟨fuel, rfl⟩ : ∃ k, fuel = k + 1 := ⟨fuel - 1, by simp at hfuel; omega⟩
    exact h.stop fuel true hstart
  | last first =>
    rw [List.length_append, List.length_singleton] at hfuel
    obtain ⟨fuel, rfl⟩ : ∃ k, fuel = k + 2 := ⟨fuel - 2, by omega⟩
    rw [List.append_assoc] at hstart
    have taken :=
      hread first (by simp) (fuel + 1) (closing :: rest) (by omega) (delimited_cons.mpr hclosing)
    exact h.step hstart (noClosing (hopens first (by simp)) _) taken
      (Scanner.comma_closing hclosing hcomma)
      (h.stop fuel false (delimited_cons.mpr hclosing).afterGap?)
  | @cons first blanks members text hblanks later ih =>
    rw [List.length_append, List.length_cons, List.length_append] at hfuel
    obtain ⟨fuel, rfl⟩ : ∃ k, fuel = k + 1 := ⟨fuel - 1, by omega⟩
    have laterOpens := fun member hmember => hopens member (List.mem_cons_of_mem _ hmember)
    have laterGap := later.afterGap? hclosing laterOpens rest
    rw [List.append_assoc, List.cons_append, List.append_assoc] at hstart
    have ended : Delimited (',' :: (blanks ++ (text ++ rest))) := delimited_cons.mpr (by decide)
    have taken := hread first (by simp) fuel _ (by omega) ended
    exact h.step hstart (noClosing (hopens first (by simp)) _) taken
      (Scanner.comma_cons hblanks laterGap)
      (ih laterOpens (fun member hmember => hread member (List.mem_cons_of_mem _ hmember))
        (by omega) laterGap)

/-- Members on lines of their own. -/
theorem listed_lines (closing : Char) (level : Nat) (write : β → List Char) (members : List β) :
    ∃ blanks text, (members.map write).flatMap
      (fun member => indentation (level + 1) ++ member ++ [',', '\n']) ++
        indentation level ++ [closing] = blanks ++ text ∧
      (∀ c ∈ blanks, isBlank c = true) ∧ Listed closing write members text := by
  have indented (level : Nat) : ∀ c ∈ indentation level, isBlank c = true := by
    intro c hc
    rw [List.eq_of_mem_replicate hc]
    rfl
  induction members with
  | nil => exact ⟨indentation level, [closing], by simp, indented level, .nil⟩
  | cons first members ih =>
    obtain ⟨blanks, text, eq, hblanks, later⟩ := ih
    have more : ∀ c ∈ '\n' :: blanks, isBlank c = true := by
      rintro c (_ | ⟨_, hc⟩)
      · rfl
      · exact hblanks c hc
    refine ⟨indentation (level + 1), _, ?_, indented _, .cons first more later⟩
    simp only [List.map_cons, List.flatMap_cons, List.append_assoc, ← eq, List.cons_append,
      List.nil_append]

/-- Members on one line. -/
theorem listed_inLine (closing : Char) (write : β → List Char) {members : List β}
    (hne : members ≠ []) :
    Listed closing write members (inLine (members.map write) ++ [closing]) := by
  induction members with
  | nil => contradiction
  | cons first members ih =>
    cases members with
    | nil => exact .last first
    | cons second members =>
      have space : ∀ c ∈ [' '], isBlank c = true := List.forall_mem_singleton.mpr rfl
      have later : Listed closing write (first :: second :: members) _ :=
        .cons first space (ih (by simp))
      simpa [inLine] using later

/-- **Both layouts have one shape**, apart from blanks at their front. -/
theorem enclosed_cons (opening closing : Char) (level : Nat) (write : β → List Char)
    (members : List β) :
    ∃ blanks text,
      enclosed opening closing level (members.map write) = opening :: (blanks ++ text) ∧
      (∀ c ∈ blanks, isBlank c = true) ∧ Listed closing write members text := by
  by_cases empty : members = []
  · subst empty
    exact ⟨[], [closing], rfl, by simp, .nil⟩
  · by_cases lines : level < lineDepth
    · obtain ⟨blanks, text, eq, hblanks, listed⟩ := listed_lines closing level write members
      refine ⟨'\n' :: blanks, text, ?_, by simpa using ⟨rfl, hblanks⟩, listed⟩
      simp [enclosed, empty, lines, ← eq]
    · refine ⟨[], _, ?_, by simp, listed_inLine closing write empty⟩
      simp [enclosed, empty, lines]

/-- What is written of members, if there are any, begins with the first one, and a delimiter follows
it. -/
theorem Listed.first (h : Listed closing write members text) (hclosing : closing ∈ delimiters)
    (hcolon : closing ≠ ':') (hne : members ≠ []) (rest : List Char) :
    ∃ first ∈ members, ∃ behind,
      text ++ rest = write first ++ behind ∧ Delimited behind ∧ behind.head? ≠ some ':' := by
  cases h with
  | nil => contradiction
  | last first =>
    exact ⟨first, by simp, closing :: rest, by simp,
      delimited_cons.mpr hclosing, by simpa using hcolon⟩
  | @cons first blanks _ text =>
    exact ⟨first, by simp, ',' :: (blanks ++ (text ++ rest)), by simp,
      delimited_cons.mpr (by decide), by simp⟩

/-- Members between marks begin with the opening mark. -/
theorem exists_enclosed_eq (opening closing : Char) (level : Nat) (members : List (List Char)) :
    ∃ more, enclosed opening closing level members = opening :: more := by
  unfold enclosed
  split
  · exact ⟨_, rfl⟩
  · split <;> exact ⟨_, rfl⟩

/-- What follows the opening mark of members that are written between marks. -/
theorem enclosed_append (opening closing : Char) (hclosing : closing ∈ delimiters)
    (hcolon : closing ≠ ':') (hopens : ∀ member ∈ members, Opens (write member)) (level : Nat)
    (rest : List Char) :
    ∃ start text, enclosed opening closing level (members.map write) ++ rest = opening :: start ∧
      afterGap? .outside start = some (text ++ rest) ∧ Listed closing write members text ∧
      text.length < (enclosed opening closing level (members.map write)).length ∧
      (members ≠ [] → start.head? ≠ some ')') := by
  obtain ⟨blanks, text, eq, hblanks, listed⟩ := enclosed_cons opening closing level write members
  have gap := (afterGap?_blanks hblanks).trans (listed.afterGap? hclosing hopens rest)
  have shorter : text.length < (enclosed opening closing level (members.map write)).length := by
    rw [eq, List.length_cons, List.length_append]
    omega
  refine ⟨blanks ++ (text ++ rest), text, by simp [eq], gap, listed, shorter, fun hne => ?_⟩
  cases blanks with
  | nil =>
    obtain ⟨first, hfirst, behind, shape, -⟩ := listed.first hclosing hcolon hne rest
    rw [List.nil_append, shape]
    exact (hopens first hfirst).head?_ne (by decide) behind
  | cons c blanks =>
    rintro ⟨rfl⟩
    exact absurd (hblanks ')' (by simp)) (by decide)

end Members

/-! ## Scanners of members -/

namespace Scanner

theorem loops_items {budget : Nat} (hbudget : 0 < budget) (closing : Char) :
    Loops closing (fun fuel => value {} fuel (budget - 1)) fun fuel =>
      items {} fuel budget closing where
  stop fuel separated hstart := by simp [items, gap_eq_some hstart]
  step hstart hclosing hfirst hcomma hlater := by
    simp [items, gap_eq_some hstart, hclosing, hbudget, hfirst, hcomma, hlater]

/-- Takes a named member. -/
def field (budget fuel : Nat) : Scanner (String × Value) := do
  let name ← identifier
  gap
  expect ':'
  gap
  let value ← value {} fuel (budget - 1)
  return (name, value)

theorem loops_fields {budget : Nat} (hbudget : 0 < budget) :
    Loops ')' (field budget) fun fuel => fields {} fuel budget where
  stop fuel separated hstart := by simp [fields, gap_eq_some hstart]
  step hstart hclosing hfirst hcomma hlater := by
    simp only [field, bind_apply, pure_apply, Option.bind_eq_some_iff] at hfirst
    obtain ⟨⟨name, _⟩, hname, ⟨_, _⟩, hgap, ⟨_, _⟩, hcolon, ⟨_, _⟩, hgap', ⟨value, _⟩,
      hvalue, ⟨⟩⟩ := hfirst
    simp [fields, gap_eq_some hstart, hclosing, hbudget, hname, hgap, hcolon, hgap', hvalue,
      hcomma, hlater]

end Scanner

end BiomeAtlas.Ron
