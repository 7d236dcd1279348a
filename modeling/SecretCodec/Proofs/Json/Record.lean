import SecretCodec.Json.Value
import SecretCodec.Proofs.Success

/-!
# Records in JSON

A record is an object, in which each field is there at most once among other members in any order,
or the list of the values of all fields. `record?` reads exactly the records
(`record?_eq_some_iff`). What a field may hold is put together from what is written for a value:
`NullOr` where null stands for none, and `FieldOr` where the field may be missing.
-/

namespace SecretCodec.Json

variable {α : Type}

namespace Value

/-- The string that stands for a text. -/
def ofText (text : String) : Value := .string (Text.Utf16.encode text.toList)

/-- The object with members under names that are texts. -/
def ofMembers (members : List (String × Value)) : Value :=
  .object (members.map fun member => (Text.Utf16.encode member.1.toList, member.2))

/-- Whether a value is a record and has the given values under its fields. An object may have other
members too, but none of the fields twice; a list has all the fields. -/
inductive HasFields (fields : List String) : Value → List (Option Value) → Prop
  | object {members : List (String × Value)}
      (once : ∀ name ∈ fields, (members.map Prod.fst).count name ≤ 1) :
      HasFields fields (ofMembers members) (fields.map fun name => members.lookup name)
  | list {items : List Value} (whole : items.length = fields.length) :
      HasFields fields (.array items) (items.map some)

end Value

/-- What null or a value is written for: nothing or something. -/
inductive NullOr (writes : α → Value → Prop) : Option α → Value → Prop
  | null : NullOr writes none .null
  | written {a : α} {v : Value} (h : writes a v) : NullOr writes (some a) v

/-- What a field holds: what its value is written for or, if the field is missing, the default. -/
inductive FieldOr (writes : α → Value → Prop) (default : α) : α → Option Value → Prop
  | missing : FieldOr writes default default none
  | written {a : α} {v : Value} (h : writes a v) : FieldOr writes default a (some v)

/-- A field is read right if its value is, and the default is taken where it is missing. -/
theorem fieldOr_iff {writes : α → Value → Prop} {default a : α} {read : Option Value → Option α}
    {field : Option Value} (missing : read none = some default)
    (written : ∀ v, read (some v) = some a ↔ writes a v) :
    read field = some a ↔ FieldOr writes default a field := by
  cases field with
  | none =>
    rw [missing, Option.some.injEq]
    constructor
    · rintro rfl
      exact .missing
    · rintro ⟨⟩
      rfl
  | some v =>
    rw [written]
    constructor
    · exact .written
    · rintro ⟨⟩
      assumption

/-- A value that may be null is read right if null is taken for none and any other value as what it
is written for. -/
theorem nullOr_iff {writes : α → Value → Prop} {v : Value} {t : Option α}
    {read : Option (Option α)} (null : v = .null → read = some none)
    (other : v ≠ .null → (read = some t ↔ ∃ a, writes a v ∧ some a = t))
    (writesNull : ∀ a, ¬writes a .null) : read = some t ↔ NullOr writes t v := by
  constructor
  · intro result
    by_cases isNull : v = .null
    · rw [null isNull] at result
      cases result
      subst isNull
      exact .null
    · obtain ⟨a, written, rfl⟩ := (other isNull).1 result
      exact .written written
  · rintro (_ | written)
    · exact null rfl
    · refine (other ?_).2 ⟨_, written, rfl⟩
      rintro rfl
      exact writesNull _ written

namespace Value

variable {units : Units} {text name : String} {v : Value} {x : Option Value}
  {members : List (Units × Value)} {named : List (String × Value)} {fields : List String}
  {values : List (Option Value)}

/-! ### Texts -/

theorem textOf?_eq_some_iff :
    textOf? units = some text ↔ units = Text.Utf16.encode text.toList := by
  rw [textOf?, Option.map_eq_some_iff]
  constructor
  · rintro ⟨cs, read, rfl⟩
    rw [String.toList_ofList]
    exact Text.Utf16.decode?_eq_some_iff.1 read
  · intro same
    exact ⟨text.toList, Text.Utf16.decode?_eq_some_iff.2 same, String.ofList_toList⟩

theorem text?_eq_some_iff : v.text? = some text ↔ v = ofText text := by
  rw [ofText]
  cases v with
  | string units => rw [text?, textOf?_eq_some_iff, Value.string.injEq]
  | _ => exact iff_of_false nofun nofun

theorem textOrNull?_eq_some_iff {t : Option String} :
    v.textOrNull? = some t ↔ NullOr (fun text v => v = ofText text) t v := by
  refine nullOr_iff (fun isNull => isNull ▸ rfl) (fun notNull => ?_) nofun
  have : v.textOrNull? = v.text?.map some := by
    cases v with
    | null => exact absurd rfl notNull
    | _ => rfl
  rw [this, Option.map_eq_some_iff]
  simp only [text?_eq_some_iff]

/-! ### Records -/

theorem named?_eq_some_iff : named? members = some named ↔ object members = ofMembers named := by
  rw [named?, mapM_eq_some_iff, ofMembers, Value.object.injEq]
  induction members generalizing named with
  | nil =>
    cases named <;> simp
  | cons m members ih =>
    cases named with
    | nil => simp
    | cons n named =>
      obtain ⟨units, v⟩ := m
      obtain ⟨name, w⟩ := n
      simp only [List.map_cons, List.cons.injEq, ih, Option.map_eq_some_iff, textOf?_eq_some_iff,
        Prod.mk.injEq]
      grind

theorem lookup_eq_head?_filter (named : List (String × Value)) (name : String) :
    named.lookup name = (named.filter (·.1 = name)).head?.map Prod.snd := by
  rw [List.head?_filter]
  induction named with
  | nil => rfl
  | cons m named ih =>
    obtain ⟨other, v⟩ := m
    by_cases same : other = name
    · simp [same]
    · simp [List.lookup_cons, beq_eq_false_iff_ne.2 (Ne.symm same), same, ih]

/-- A name has one answer if it is there at most once, and then the answer is what it is there
for. -/
theorem unique?_eq_some_iff :
    unique? named name = some x ↔
      (named.map Prod.fst).count name ≤ 1 ∧ named.lookup name = x := by
  have count : (named.map Prod.fst).count name = (named.filter (·.1 = name)).length := by
    rw [List.count_eq_countP, List.countP_map, List.countP_eq_length_filter]
    rfl
  rw [count, lookup_eq_head?_filter, unique?.eq_def]
  split
  · next none => simp [none]
  · next one => simp [one]
  · next several none one =>
    refine iff_of_false nofun fun ⟨most, _⟩ => ?_
    match found : named.filter (·.1 = name) with
    | [] => exact none found
    | [member] => exact one member found
    | _ :: _ :: _ =>
      rw [found] at most
      simp at most

theorem mapM_unique?_eq_some_iff :
    fields.mapM (unique? named) = some values ↔
      (∀ name ∈ fields, (named.map Prod.fst).count name ≤ 1) ∧
        (fields.map fun name => named.lookup name) = values := by
  rw [mapM_eq_some_iff]
  induction fields generalizing values with
  | nil =>
    cases values <;> simp
  | cons field fields ih =>
    cases values with
    | nil => simp
    | cons value values =>
      simp only [List.map_cons, List.cons.injEq, ih, unique?_eq_some_iff, List.forall_mem_cons]
      grind

/-- Exactly the records are read, and each field as what the record has under it. -/
theorem record?_eq_some_iff : v.record? fields = some values ↔ HasFields fields v values := by
  constructor
  · intro read
    cases v with
    | object members =>
      simp only [record?, Option.bind_eq_bind, Option.bind_eq_some_iff, named?_eq_some_iff] at read
      obtain ⟨named, same, found⟩ := read
      obtain ⟨once, rfl⟩ := mapM_unique?_eq_some_iff.1 found
      rw [same]
      exact .object once
    | array items =>
      rw [record?] at read
      split at read
      · next whole =>
        cases read
        exact .list whole
      · cases read
    | _ => cases read
  · rintro (⟨once⟩ | ⟨whole⟩)
    · simp only [ofMembers, record?, Option.bind_eq_bind, Option.bind_eq_some_iff]
      exact ⟨_, named?_eq_some_iff.2 rfl, mapM_unique?_eq_some_iff.2 ⟨once, rfl⟩⟩
    · exact if_pos whole

end Value

end SecretCodec.Json
