/-
# Amend.Proofs.Deriving — what an item declares

An entity is gathered in one pass over the fields of an item, which ends at the
first fault.  `Derivable` says without the pass when there is none: the item has
named fields, each of its `orm` attributes and of those of its fields can be read,
no key is left out, and there is one key at most.

What the fields set is read off their attributes as a whole.  A mark counts
wherever it stands, of two columns the later one does, and a field that is left
out gives nothing: the entity is that of the fields that are kept
(`columns_eq_ok`, `derives_iff_derivable`).
-/
import Amend.Declaration
import Amend.Proofs.Outcome
import Mathlib.Data.List.Find
import Mathlib.Data.List.Nodup

set_option autoImplicit false

namespace Amend.Declaration

/-! ## Settings -/

section Settings

variable {α β : Type} (read : Reader α) (attributes : List Attribute)

/-- Each `orm` attribute can be read. -/
def Readable : Prop := ∀ a ∈ attributes, a.path = "orm" → ∃ l, a.settings read = .ok l

/-- What the `orm` attributes set, in order; one that cannot be read sets nothing. -/
def settingsOf : List α :=
  (attributes.filter (·.path == "orm")).flatMap fun a => (a.settings read).toOption.getD []

variable {read attributes}

theorem readable_iff :
    Readable read attributes
      ↔ ∀ a ∈ attributes.filter (·.path == "orm"), ∃ l, a.settings read = .ok l := by
  simp [Readable]

/-- **What attributes say one after the other is there just when each can be read, and is what comes
of all their settings**, where to merge what settings come to is to take them in behind the
others. -/
theorem allSaid_eq_ok {take : β → α → β} {merge : β → β → β} {nothing said : β}
    (joins : ∀ before settings, merge before (List.foldl take nothing settings)
      = List.foldl take before settings) :
    allSaid read take merge nothing attributes = .ok said
      ↔ Readable read attributes ∧ said = (settingsOf read attributes).foldl take nothing := by
  rw [readable_iff, settingsOf, allSaid]
  -- the rest is merged into whatever was said before it
  suffices steps : ∀ own before, List.foldlM
        (fun before a => return merge before (← Attribute.said read take nothing a)) before own
          = .ok said
      ↔ (∀ a ∈ own, ∃ l, a.settings read = .ok l)
        ∧ said = (own.flatMap fun a => (a.settings read).toOption.getD []).foldl take before from
    steps _ _
  intro own
  induction own with
  | nil => simp [pure, Except.pure, eq_comm]
  | cons a rest ih =>
      intro before
      rw [List.foldlM_cons, Attribute.said, List.forall_mem_cons, List.flatMap_cons,
        List.foldl_append]
      cases a.settings read with
      | error fault => simp [bind, Except.bind]
      | ok l => simpa [bind, Except.bind, pure, Except.pure, Except.toOption, joins] using ih _

end Settings

/-! ## Fields -/

def FieldSetting.column? : FieldSetting → Option String
  | .column name => some name
  | _ => none

/-- What settings make of a field: a mark counts wherever it stands, and of the columns the last. -/
def FieldRole.ofSettings (l : List FieldSetting) : FieldRole where
  isId := l.contains .id
  skip := l.contains .skip
  column := l.reverse.findSome? FieldSetting.column?

/-- Settings are taken in one by one; what comes of them is said by all together. -/
theorem FieldRole.foldl_take (r : FieldRole) (settings : List FieldSetting) :
    settings.foldl FieldRole.take r = r.merge (.ofSettings settings) := by
  induction settings generalizing r with
  | nil => simp [FieldRole.merge, FieldRole.ofSettings]
  | cons s rest ih =>
      rw [List.foldl_cons, ih]
      simp only [FieldRole.merge, FieldRole.ofSettings, List.reverse_cons, List.findSome?_append,
        Option.or_assoc]
      cases s <;> simp [FieldRole.take, FieldSetting.column?]

theorem fieldRole_eq_ok {attributes : List Attribute} {r : FieldRole} :
    fieldRole attributes = .ok r
      ↔ Readable readFieldSetting attributes
        ∧ r = .ofSettings (settingsOf readFieldSetting attributes) := by
  have alone : ∀ l : List FieldSetting, l.foldl FieldRole.take {} = .ofSettings l := fun l => by
    simp [FieldRole.foldl_take, FieldRole.merge, FieldRole.ofSettings]
  rw [← alone]
  exact allSaid_eq_ok fun before l => by rw [alone, FieldRole.foldl_take]

namespace Field

def settings (f : Field) : List FieldSetting := settingsOf readFieldSetting f.attributes

/-- The name without the mark of a raw name. -/
def property (f : Field) : String := unraw f.name

def isId (f : Field) : Bool := f.settings.contains .id

def isSkipped (f : Field) : Bool := f.settings.contains .skip

/-- The column that a field names, which is the last one that it sets. -/
def column? (f : Field) : Option String := f.settings.reverse.findSome? FieldSetting.column?

/-- The column that a field becomes. -/
def toColumn (f : Field) : Column := ⟨f.property, f.name, f.isId, f.column?⟩

end Field

/-- The fields that are not left out. -/
def kept (fields : List Field) : List Field := fields.filter fun f => !f.isSkipped

/-- A field of which an entity can be made. -/
structure Field.Sound (f : Field) : Prop where
  readable : Readable readFieldSetting f.attributes
  /-- A key is not left out. -/
  apart : f.isId = true → f.isSkipped = false

/-- One field of the pass, whose attributes can be read. -/
theorem columns_cons {f : Field} (readable : Readable readFieldSetting f.attributes)
    (idSeen : Bool) (rest : List Field) :
    columns idSeen (f :: rest)
      = if f.isSkipped then if f.isId then .error .skippedId else columns idSeen rest
        else if f.isId && idSeen then .error .secondId
        else (columns (idSeen || f.isId) rest).map (f.toColumn :: ·) := by
  have role : fieldRole f.attributes = .ok ⟨f.isId, f.isSkipped, f.column?⟩ :=
    fieldRole_eq_ok.2 ⟨readable, rfl⟩
  rw [columns, (mapError_eq_ok Fault.attribute).2 role]
  refine if_congr Iff.rfl rfl (if_congr Iff.rfl rfl ?_)
  cases columns (idSeen || f.isId) rest <;> rfl

/-- A field in front adds its column if it is kept, and is no second key. -/
theorem columns_cons_eq_ok {idSeen : Bool} {f : Field} {rest : List Field} {cs : List Column} :
    columns idSeen (f :: rest) = .ok cs
      ↔ f.Sound ∧ (f.isId && idSeen) = false
        ∧ ∃ others, columns (idSeen || f.isId) rest = .ok others
          ∧ cs = if f.isSkipped then others else f.toColumn :: others := by
  by_cases readable : Readable readFieldSetting f.attributes
  · have sound : f.Sound ↔ (f.isId = true → f.isSkipped = false) :=
      ⟨fun sound => sound.apart, fun apart => ⟨readable, apart⟩⟩
    rw [columns_cons readable, sound]
    cases skipped : f.isSkipped with
    | true => cases id : f.isId <;> simp
    | false =>
        cases (f.isId && idSeen) with
        | true => simp
        | false =>
            cases columns (idSeen || f.isId) rest with
            | error e => simp [Except.map]
            | ok others =>
                simp only [Except.map]
                simp [@eq_comm _ cs]
  · refine iff_of_false (fun made => readable ?_) fun made => readable made.1.readable
    obtain ⟨r, role, -⟩ := bind_eq_ok.1 made
    exact (fieldRole_eq_ok.1 ((mapError_eq_ok _).1 role)).1

/-- **The pass over the fields finds no fault just when each field is sound and no second key
follows, and then it has the columns of the fields that are kept.** -/
theorem columns_eq_ok {idSeen : Bool} {fields : List Field} {cs : List Column} :
    columns idSeen fields = .ok cs
      ↔ (∀ f ∈ fields, f.Sound) ∧ idSeen.toNat + fields.countP Field.isId ≤ 1
        ∧ cs = (kept fields).map Field.toColumn := by
  induction fields generalizing idSeen cs with
  | nil =>
      have low := Bool.toNat_le idSeen
      simp [columns, kept, low, eq_comm]
  | cons f rest ih =>
      have keys : (f.isId && idSeen) = false
            ∧ (idSeen || f.isId).toNat + rest.countP Field.isId ≤ 1
          ↔ idSeen.toNat + (f :: rest).countP Field.isId ≤ 1 := by
        rw [List.countP_cons]
        generalize rest.countP Field.isId = more
        cases f.isId <;> cases idSeen <;>
          simp only [Bool.and_false, Bool.and_true, Bool.or_false, Bool.or_true, Bool.toNat_false,
            Bool.toNat_true, Bool.true_eq_false, Bool.false_eq_true, reduceIte, true_and,
            false_and, false_iff] <;> omega
      have columns : (kept (f :: rest)).map Field.toColumn
          = if f.isSkipped then (kept rest).map Field.toColumn
            else f.toColumn :: (kept rest).map Field.toColumn := by
        cases skipped : f.isSkipped <;> simp [kept, skipped]
      rw [columns_cons_eq_ok, List.forall_mem_cons, columns, ← keys]
      constructor
      · rintro ⟨sound, first, others, made, rfl⟩
        obtain ⟨each, count, rfl⟩ := ih.1 made
        exact ⟨⟨sound, each⟩, ⟨first, count⟩, rfl⟩
      · rintro ⟨⟨sound, each⟩, ⟨first, count⟩, rfl⟩
        exact ⟨sound, first, _, ih.2 ⟨each, count, rfl⟩, rfl⟩

/-! ## Items -/

/-- Of an item with these fields an entity can be made. -/
structure Derivable (i : Item) (fields : List Field) : Prop where
  shape : i.shape = .struct fields
  readable : Readable readTableSetting i.attributes
  sound : ∀ f ∈ fields, f.Sound
  /-- One field at most is the key. -/
  oneId : fields.countP Field.isId ≤ 1

/-- What an entity says is what the fields of its item set. -/
structure Declares (fields : List Field) (d : Derived) : Prop where
  columns : d.entity.columns = (kept fields).map Field.property
  /-- A row has a value for the columns and for nothing else. -/
  answers : ∀ values c, (d.row values c).isSome = true ↔ c ∈ d.entity.columns
  reads : ∀ values, ∀ f ∈ kept fields, d.row values f.property = some (values f.name)
  identity : d.entity.identity = (fields.find? Field.isId).map Field.property
  identity_mem : ∀ key ∈ d.entity.identity, key ∈ d.entity.columns
  mappings : d.entity.mappings
    = (kept fields).filterMap fun f => f.column?.map (f.property, ·)

def TableSetting.table? : TableSetting → Option String
  | .table name => some name
  | _ => none

def TableSetting.schema? : TableSetting → Option String
  | .schema name => some name
  | _ => none

/-- What settings make of an item: of the tables and of the schemas the last counts. -/
def TableNames.ofSettings (l : List TableSetting) : TableNames where
  table := l.reverse.findSome? TableSetting.table?
  schema := l.reverse.findSome? TableSetting.schema?

theorem TableNames.foldl_take (n : TableNames) (settings : List TableSetting) :
    settings.foldl TableNames.take n = n.merge (.ofSettings settings) := by
  induction settings generalizing n with
  | nil => simp [TableNames.merge, TableNames.ofSettings]
  | cons s rest ih =>
      rw [List.foldl_cons, ih]
      simp only [TableNames.merge, TableNames.ofSettings, List.reverse_cons,
        List.findSome?_append, Option.or_assoc]
      cases s <;> simp [TableNames.take, TableSetting.table?, TableSetting.schema?]

theorem tableNames_eq_ok {attributes : List Attribute} {names : TableNames} :
    tableNames attributes = .ok names
      ↔ Readable readTableSetting attributes
        ∧ names = .ofSettings (settingsOf readTableSetting attributes) := by
  have alone : ∀ l : List TableSetting, l.foldl TableNames.take {} = .ofSettings l := fun l => by
    simp [TableNames.foldl_take, TableNames.merge, TableNames.ofSettings]
  rw [← alone]
  exact allSaid_eq_ok fun before l => by rw [alone, TableNames.foldl_take]

theorem exists_tableNames_iff {attributes : List Attribute} :
    (∃ names, tableNames attributes = .ok names) ↔ Readable readTableSetting attributes := by
  simp [tableNames_eq_ok]

/-- The entity of an item, from the fields that are kept. -/
def Item.derivedOf (i : Item) (names : TableNames) (fields : List Field) : Derived where
  target := i.name
  entity :=
    { table := names.table.getD (Text.snake i.name)
      schema := names.schema
      identity := ((kept fields).find? Field.isId).map Field.property
      columns := (kept fields).map Field.property
      mappings := (kept fields).filterMap fun f => f.column?.map (f.property, ·) }
  constants := (kept fields).map fun f => (constantName f.property, f.property)
  arms := (kept fields).map fun f => (f.property, f.name)

/-- What is made of the columns of the fields that are kept. -/
theorem derive_of_columns {i : Item} {fields : List Field} {names : TableNames}
    (shape : i.shape = .struct fields) (table : tableNames i.attributes = .ok names)
    (passed : columns false fields = .ok ((kept fields).map Field.toColumn)) :
    i.derive = .ok (i.derivedOf names fields) := by
  have shaped : i.fields = .ok fields := by
    unfold Item.fields
    rw [shape]
  have named : (tableNames i.attributes).mapError Fault.attribute = .ok names :=
    (mapError_eq_ok _).2 table
  refine bind_eq_ok.2 ⟨fields, shaped, bind_eq_ok.2 ⟨names, named, bind_eq_ok.2 ⟨_, passed, ?_⟩⟩⟩
  simp [pure, Except.pure, Item.derivedOf, List.find?_map, List.filterMap_map, Function.comp_def,
    Field.toColumn]

/-- **An entity is made just of a derivable item**, from the fields that are kept. -/
theorem derive_eq_ok {i : Item} {d : Derived} :
    i.derive = .ok d ↔ ∃ fields names, Derivable i fields
      ∧ tableNames i.attributes = .ok names ∧ d = i.derivedOf names fields := by
  constructor
  · intro made
    obtain ⟨fields, shaped, rest⟩ := bind_eq_ok.1 made
    obtain ⟨names, table, rest⟩ := bind_eq_ok.1 rest
    obtain ⟨cs, passed, -⟩ := bind_eq_ok.1 rest
    have shape : i.shape = .struct fields := by
      unfold Item.fields at shaped
      cases shape : i.shape <;> simp_all
    rw [mapError_eq_ok] at table
    obtain ⟨sound, oneId, rfl⟩ := columns_eq_ok.1 passed
    have derivable : Derivable i fields :=
      { shape
        readable := exists_tableNames_iff.1 ⟨names, table⟩
        sound
        oneId := by simpa using oneId }
    rw [derive_of_columns shape table passed] at made
    exact ⟨fields, names, derivable, table, (Except.ok.inj made).symm⟩
  · rintro ⟨fields, names, derivable, table, rfl⟩
    have passed : columns false fields = .ok ((kept fields).map Field.toColumn) :=
      columns_eq_ok.2 ⟨derivable.sound, by simpa using derivable.oneId, rfl⟩
    exact derive_of_columns derivable.shape table passed

/-! ## Rows -/

theorem isSome_lookup_arms {fields : List Field} {c : String} :
    ((fields.map fun f => (f.property, f.name)).lookup c).isSome = true
      ↔ c ∈ fields.map Field.property := by
  rw [List.lookup_isSome_iff]
  simp only [List.mem_map, exists_exists_and_eq_and, beq_iff_eq]
  exact exists_congr fun f => and_congr_right' eq_comm

/-- **A row has a value for the columns of its entity and for nothing else.** -/
theorem isSome_row {i : Item} {d : Derived} (made : i.derive = .ok d) (values : String → Value)
    (c : String) : (d.row values c).isSome = true ↔ c ∈ d.entity.columns := by
  obtain ⟨fields, names, -, -, rfl⟩ := derive_eq_ok.1 made
  rw [Derived.row, Option.isSome_map]
  exact isSome_lookup_arms

/-- Where no two fields have one property, a property is read from its own field. -/
theorem lookup_arms {fields : List Field} (distinct : (fields.map Field.property).Nodup)
    {f : Field} (member : f ∈ fields) :
    (fields.map fun f => (f.property, f.name)).lookup f.property = some f.name := by
  induction fields with
  | nil => cases member
  | cons g rest ih =>
      obtain ⟨fresh, distinct⟩ := List.nodup_cons.1 distinct
      rcases List.mem_cons.1 member with rfl | later
      · simp
      · have other : f.property ≠ g.property := fun same =>
          fresh (same ▸ List.mem_map_of_mem later)
        simpa [List.lookup_cons, beq_eq_false_iff_ne.2 other] using ih distinct later

/-- A key is never left out, so that it is found among all fields as among those that are kept. -/
theorem find?_isId_kept {fields : List Field} (sound : ∀ f ∈ fields, f.Sound) :
    (kept fields).find? Field.isId = fields.find? Field.isId := by
  unfold kept
  rw [List.find?_filter]
  refine List.find?_congr fun f member => ?_
  have apart := (sound f member).apart
  cases id : f.isId <;> simp_all

theorem kept_kept (fields : List Field) : kept (kept fields) = kept fields := by
  simp [kept, List.filter_filter]

theorem Derivable.kept {i : Item} {fields : List Field} (derivable : Derivable i fields) :
    Derivable { i with shape := .struct (kept fields) } (kept fields) where
  shape := rfl
  readable := derivable.readable
  sound := fun f member => derivable.sound f (List.mem_of_mem_filter member)
  oneId := Nat.le_trans List.filter_sublist.countP_le derivable.oneId

theorem Derivable.declares {i : Item} {fields : List Field} (derivable : Derivable i fields)
    (distinct : (fields.map Field.property).Nodup) {d : Derived} (made : i.derive = .ok d) :
    Declares fields d := by
  obtain ⟨fields', names, derivable', -, rfl⟩ := derive_eq_ok.1 made
  obtain rfl : fields = fields' :=
    Shape.struct.inj (derivable.shape.symm.trans derivable'.shape)
  have same := find?_isId_kept derivable.sound
  exact {
    columns := rfl
    answers := isSome_row made
    reads := fun values f member => by
      have own := lookup_arms (distinct.sublist (List.filter_sublist.map _)) member
      rw [Derived.row]
      exact congrArg (Option.map values) own
    identity := congrArg (Option.map Field.property) same
    identity_mem := fun key member => by
      obtain ⟨f, found, rfl⟩ := Option.map_eq_some_iff.1 member
      exact List.mem_map_of_mem (List.mem_of_find?_eq_some found)
    mappings := rfl }

/-- **An item gives an entity just when it is derivable**, and what the entity says is what the
fields of the item set.  Fields that are left out contribute nothing. -/
theorem derives_iff_derivable (i : Item)
    (distinct : ∀ fields, i.shape = .struct fields → (fields.map Field.property).Nodup) :
    ((∃ d, i.derive = .ok d) ↔ ∃ fields, Derivable i fields)
      ∧ ∀ fields d, i.shape = .struct fields → i.derive = .ok d → Declares fields d
        ∧ ({ i with shape := .struct (kept fields) } : Item).derive = .ok d := by
  refine ⟨⟨?_, ?_⟩, fun fields d shape made => ?_⟩
  · rintro ⟨d, made⟩
    obtain ⟨fields, names, derivable, -⟩ := derive_eq_ok.1 made
    exact ⟨fields, derivable⟩
  · rintro ⟨fields, derivable⟩
    obtain ⟨names, table⟩ := exists_tableNames_iff.2 derivable.readable
    exact ⟨_, derive_eq_ok.2 ⟨fields, names, derivable, table, rfl⟩⟩
  · obtain ⟨fields', names, derivable, table, rfl⟩ := derive_eq_ok.1 made
    obtain rfl : fields = fields' := Shape.struct.inj (shape.symm.trans derivable.shape)
    refine ⟨derivable.declares (distinct fields shape) made, derive_eq_ok.2
      ⟨kept fields, names, derivable.kept, table, ?_⟩⟩
    simp [Item.derivedOf, kept_kept]

/-- Fields of which one is the key, under the later of two columns, and one is left out. -/
def shelfFields : List Field :=
  [ ⟨"r#type", [⟨"orm", .list, [.name "column", .punct '=', .text "kind"]⟩, ⟨"serde", .bare, []⟩,
      ⟨"orm", .list, [.name "id", .punct ',', .name "column", .punct '=', .text "shelf_type",
        .punct ',']⟩]⟩,
    ⟨"cache", [⟨"orm", .list, [.name "skip", .punct ',', .name "column", .punct '=',
      .text "type"]⟩]⟩,
    ⟨"title", []⟩ ]

/-- An item with a table of its own. -/
def shelf : Item where
  name := "Shelf"
  shape := .struct shelfFields
  attributes := [⟨"orm", .list, [.name "table", .punct '=', .text "shelves"]⟩]

theorem shelf_derives :
    (∀ fields, shelf.shape = .struct fields → (fields.map Field.property).Nodup)
      ∧ ∃ d, shelf.derive = .ok d ∧ d.entity.columns = ["type", "title"]
        ∧ d.entity.identity = some "type" ∧ d.entity.mappings = [("type", "shelf_type")]
        ∧ ∀ values, d.row values "type" = some (values "r#type")
          ∧ (d.row values "cache").isSome = false := by
  have distinct : ∀ fields, shelf.shape = .struct fields → (fields.map Field.property).Nodup := by
    rintro fields ⟨⟩
    decide
  obtain ⟨-, declares⟩ := derives_iff_derivable shelf distinct
  have derives : ∃ d, shelf.derive = .ok d := ⟨_, rfl⟩
  obtain ⟨d, made⟩ := derives
  obtain ⟨declared, -⟩ := declares shelfFields d rfl made
  refine ⟨distinct, d, made, declared.columns, declared.identity, declared.mappings,
    fun values => ⟨?_, ?_⟩⟩
  · exact declared.reads values _ (List.mem_cons_self ..)
  · rw [Bool.eq_false_iff, ne_eq, declared.answers, declared.columns]
    decide

end Amend.Declaration
