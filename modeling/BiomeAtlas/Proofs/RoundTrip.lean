import BiomeAtlas.Proofs.Nesting
import BiomeAtlas.Settings.Notation

/-! # Settings are read back

Settings are written as records of records, and every one of their values has the form that reading
asks for. The two halves of that are kept apart. What `toValue` makes of anything is what the
matching `ofValue?` accepts and gives back: a record has every field under its own name
(`Value.fields?_record`, `fieldOr_cons_self`), numbers of every width are in range, and biomes are
told apart by their names. And it is a plain value, nested five levels deep
(`Settings.plain_toValue`), so its text is read back.

Together, no settings are lost or changed by being written (`Settings.parse?_render`). -/

namespace BiomeAtlas

open Ron

namespace Ron

/-! ## Fields of records -/

theorem Value.int32?_toInt (x : Int32) : (Value.ofInt x.toInt).int32? = some x := by
  have fits : IntType.i32.contains x.toInt = true :=
    IntType.contains_of_signed rfl x.le_toInt x.toInt_lt
  simp [Value.int32?, Value.ofInt, Value.whole?, fits]

theorem Value.int64?_toInt (x : Int64) : (Value.ofInt x.toInt).int64? = some x := by
  have fits : IntType.i64.contains x.toInt = true :=
    IntType.contains_of_signed rfl x.le_toInt x.toInt_lt
  simp [Value.int64?, Value.ofInt, Value.whole?, fits]

theorem Value.uint32?_toNat (x : UInt32) : (Value.ofInt x.toNat).uint32? = some x := by
  have high : (x.toNat : Int) < 2 ^ 32 := by exact_mod_cast x.toNat_lt
  have fits : IntType.u32.contains x.toNat = true :=
    IntType.contains_of_unsigned rfl (Int.natCast_nonneg _) high
  simp [Value.uint32?, Value.ofInt, Value.whole?, fits]

theorem Value.uint64?_toNat (x : UInt64) : (Value.ofInt x.toNat).uint64? = some x := by
  have high : (x.toNat : Int) < 2 ^ 64 := by exact_mod_cast x.toNat_lt
  have fits : IntType.u64.contains x.toNat = true :=
    IntType.contains_of_unsigned rfl (Int.natCast_nonneg _) high
  simp [Value.uint64?, Value.ofInt, Value.whole?, fits]

theorem Value.list?_map {α : Type} {read : Value → Option α} {write : α → Value}
    (h : ∀ a, read (write a) = some a) (items : List α) :
    (Value.list (items.map write)).list? read = some items := by
  rw [list?]
  induction items with
  | nil => rfl
  | cons item items ih => simp [h, ih]

/-- A record has the fields it is written with, if their names differ. -/
theorem Value.fields?_record {fields : List (String × Value)} (h : (fields.map Prod.fst).Nodup)
    (kind : String) (known : List String) :
    (Value.record none fields).fields? false kind known = some fields := by
  have once (name : String) : (fields.filter fun field => field.1 == name).length ≤ 1 := by
    have count := List.nodup_iff_count.mp h name
    rwa [List.count_eq_length_filter, List.filter_map, List.length_map] at count
  simp [fields?, once, guard_pos]

section Lookup

variable {α : Type} {name other : String} {value : Value}
  {fields : List (String × Value)} {default : α} {read : Value → Option α}

theorem fieldOr_cons_self : fieldOr ((name, value) :: fields) name default read = read value := by
  simp [fieldOr]

theorem fieldOr_cons_of_ne (h : name ≠ other) :
    fieldOr ((other, value) :: fields) name default read = fieldOr fields name default read := by
  simp [fieldOr, List.lookup_cons, beq_false_of_ne h]

theorem field?_cons_self : field? ((name, value) :: fields) name read = read value := by
  simp [field?]

theorem field?_cons_of_ne (h : name ≠ other) :
    field? ((other, value) :: fields) name read = field? fields name read := by
  simp [field?, List.lookup_cons, beq_false_of_ne h]

end Lookup

end Ron

/-! ## Reading what was written -/

/-- Biomes are told apart by their names. -/
theorem Biome.ofIdent?_ident (biome : Biome) : ofIdent? biome.ident = some biome := by
  cases biome <;> decide

theorem Biome.ofValue?_toValue (biome : Biome) : ofValue? biome.toValue = some biome :=
  biome.ofIdent?_ident

theorem candidatesOfValue?_toValue (lists : ByGroup (List Biome)) :
    candidatesOfValue? (candidatesToValue lists) = some lists := by
  have each (biomes : List Biome) :
      (Value.list (biomes.map Biome.toValue)).list? Biome.ofValue? = some biomes :=
    Value.list?_map Biome.ofValue?_toValue biomes
  have all := Value.list?_map each lists.toList
  rw [Value.list?] at all
  simp only [candidatesOfValue?, candidatesToValue, all]
  exact ByGroup.ofList?_toList lists

theorem CandidateTable.ofValue?_toValue (table : CandidateTable) :
    ofValue? false table.toValue = some table := by
  rw [toValue, ofValue?, Value.fields?_record (by simp)]
  simp [fieldOr_cons_self, fieldOr_cons_of_ne, candidatesOfValue?_toValue]

theorem Replacement.ofValue?_toValue (replacement : Replacement) :
    ofValue? false replacement.toValue = some replacement := by
  rw [toValue, ofValue?, Value.fields?_record (by simp)]
  simp [field?_cons_self, field?_cons_of_ne, Biome.ofValue?_toValue, Value.int32?_toInt]

theorem LayerParams.ofValue?_toValue (params : LayerParams) :
    ofValue? false params.toValue = some params := by
  rw [toValue, ofValue?, Value.fields?_record (by simp)]
  simp [fieldOr_cons_self, fieldOr_cons_of_ne, Value.int32?_toInt, Value.uint32?_toNat,
    Value.list?_map Replacement.ofValue?_toValue, CandidateTable.ofValue?_toValue]

theorem WorldSettings.ofValue?_toValue (world : WorldSettings) :
    ofValue? false world.toValue = some world := by
  rw [toValue, ofValue?, Value.fields?_record (by simp)]
  simp [fieldOr_cons_self, Value.int64?_toInt]

theorem MapSettings.ofValue?_toValue (map : MapSettings) :
    ofValue? false map.toValue = some map := by
  rw [toValue, ofValue?, Value.fields?_record (by simp)]
  simp [fieldOr_cons_self, fieldOr_cons_of_ne, Value.int32?_toInt, Value.uint64?_toNat, Value.text?]

theorem DebugSettings.ofValue?_toValue (debug : DebugSettings) :
    ofValue? false debug.toValue = some debug := by
  rw [toValue, ofValue?, Value.fields?_record (by simp)]
  simp [fieldOr_cons_self, Value.text?]

/-- The form in which settings are written stands for the settings. -/
theorem Settings.ofDocument?_toValue (settings : Settings) :
    ofDocument? ⟨{}, settings.toValue⟩ = some settings := by
  rw [toValue, ofDocument?, Value.fields?_record (by simp)]
  simp [fieldOr_cons_self, fieldOr_cons_of_ne, WorldSettings.ofValue?_toValue,
    LayerParams.ofValue?_toValue, MapSettings.ofValue?_toValue, DebugSettings.ofValue?_toValue]

/-! ## What is written is plain -/

theorem fitsWord_int32 (x : Int32) : FitsWord x.toInt := by
  have low := x.le_toInt
  have high := x.toInt_lt
  constructor <;> omega

theorem fitsWord_int64 (x : Int64) : FitsWord x.toInt := by
  have low := x.le_toInt
  have high := x.toInt_lt
  constructor <;> omega

theorem fitsWord_uint32 (x : UInt32) : FitsWord x.toNat := by
  have high := x.toNat_lt
  constructor <;> omega

theorem fitsWord_uint64 (x : UInt64) : FitsWord x.toNat := by
  have high := x.toNat_lt
  constructor <;> omega

theorem Ron.Value.plain_ofInt {n : Int} (hn : FitsWord n) (depth : Nat) :
    (Value.ofInt n).Plain depth :=
  .number hn

theorem Biome.plain_toValue (biome : Biome) (depth : Nat) : biome.toValue.Plain depth := by
  have name : isName biome.ident.toList = true := by cases biome <;> decide
  have word : biome.ident ∉ keywords := by cases biome <;> decide
  exact .word name word

theorem plain_candidatesToValue (lists : ByGroup (List Biome)) (depth : Nat) :
    (candidatesToValue lists).Plain (depth + 2) := by
  refine .tuple (by simp [ByGroup.toList, Group.all]) fun list hlist => ?_
  obtain ⟨biomes, -, rfl⟩ := List.mem_map.mp hlist
  refine .list fun item hitem => ?_
  obtain ⟨biome, -, rfl⟩ := List.mem_map.mp hitem
  exact biome.plain_toValue depth

theorem CandidateTable.plain_toValue (table : CandidateTable) (depth : Nat) :
    table.toValue.Plain (depth + 3) := by
  refine .record (by simp) (by simp; decide) ?_
  simp [plain_candidatesToValue]

theorem Replacement.plain_toValue (replacement : Replacement) (depth : Nat) :
    replacement.toValue.Plain (depth + 1) := by
  refine .record (by simp) (by simp; decide) ?_
  simp [fitsWord_int32, Biome.plain_toValue, Value.plain_ofInt]

theorem LayerParams.plain_toValue (params : LayerParams) (depth : Nat) :
    params.toValue.Plain (depth + 4) := by
  have replacements :
      (Value.list (params.replacements.map Replacement.toValue)).Plain (depth + 3) := by
    refine .list fun item hitem => ?_
    obtain ⟨replacement, -, rfl⟩ := List.mem_map.mp hitem
    exact replacement.plain_toValue (depth + 1)
  refine .record (by simp) (by simp; decide) ?_
  simp [fitsWord_int32, fitsWord_uint32, Value.plain_ofInt, replacements,
    CandidateTable.plain_toValue]

theorem WorldSettings.plain_toValue (world : WorldSettings) (depth : Nat) :
    world.toValue.Plain (depth + 1) := by
  refine .record (by simp) (by simp; decide) ?_
  simp [fitsWord_int64, Value.plain_ofInt]

theorem MapSettings.plain_toValue (map : MapSettings) (depth : Nat) :
    map.toValue.Plain (depth + 1) := by
  refine .record (by simp) (by simp; decide) ?_
  simp [fitsWord_int32, fitsWord_uint64, Value.plain_ofInt, Value.Plain.text]

theorem DebugSettings.plain_toValue (debug : DebugSettings) (depth : Nat) :
    debug.toValue.Plain (depth + 1) := by
  refine .record (by simp) (by simp; decide) ?_
  simp [Value.Plain.text]

theorem Settings.plain_toValue (settings : Settings) : settings.toValue.Plain 5 := by
  refine .record (by simp) (by simp; decide) ?_
  simp [settings.world.plain_toValue 3, settings.layers.plain_toValue 0,
    settings.map.plain_toValue 3, settings.debug.plain_toValue 3]

/-- **Settings are read back** from their text, whatever their numbers, lists and texts are. -/
theorem Settings.parse?_render (settings : Settings) : parse? settings.render = some settings := by
  have document := settings.plain_toValue.parse?_render (by decide)
  simp [parse?, render, document, ofDocument?_toValue]

end BiomeAtlas
